import DynamicSql.Proofs.Expr.Acceptance
import DynamicSql.Proofs.Expr.Scanning
import DynamicSql.Proofs.Path.Segments

/-!
# Dotted texts as expressions and as paths

A dotted text is parsed to the expression that navigates along its hops, and cut into
steps it gives one step for every hop.
-/

namespace DynamicSql

open Text (isIdentifierContinue natText)

/-! ## The characters of a hop -/

namespace Hop

variable (hop : Hop)

theorem ne_dot_of_mem_chars {c : Char} (h : c ∈ hop.chars) : c ≠ '.' := by
  have hdigit : ∀ n, ∀ x ∈ natText n, x ≠ '.' := by
    rintro n _ hx rfl
    exact absurd (Text.isDigit_of_mem_natText hx) (by decide)
  rcases List.mem_append.1 h with h | h
  · exact ne_of_mem_name hop.named h '.' rfl rfl
  · unfold bracketChars at h
    split at h
    · simp at h
    · rename_i n _
      simp only [List.mem_cons, List.mem_append, List.not_mem_nil, or_false] at h
      rcases h with rfl | h | rfl
      · decide
      · exact hdigit n c h
      · decide

/-- The text of a hop is read as its step. -/
theorem ofChars_chars : Path.Step.ofChars hop.chars = hop.step := by
  have hname : '[' ∉ hop.name.toList := fun h => ne_of_mem_name hop.named h '[' rfl rfl rfl
  unfold step chars bracketChars
  cases hop.position with
  | none => simp [Path.Step.ofChars_of_not_mem hname]
  | some n => simp [Path.Step.ofChars_bracket hname, Path.dropClosing]

end Hop

/-! ## Steps -/

namespace Dotted

theorem segments_hops (first : Hop) (rest : List Hop) :
    Path.segments (first.chars ++ rest.flatMap fun hop => '.' :: hop.chars) =
      (first :: rest).map Hop.chars := by
  induction rest generalizing first with
  | nil =>
    rw [List.flatMap_nil, List.append_nil]
    exact Path.segments_of_not_mem fun h => first.ne_dot_of_mem_chars h rfl
  | cons next rest ih =>
    rw [List.flatMap_cons, List.cons_append, List.map_cons, ← ih next]
    exact Path.segments_append_dot (fun h => first.ne_dot_of_mem_chars h rfl) _

/-- A dotted text has a step for each of its hops. -/
theorem steps_text (dotted : Dotted) : Path.steps dotted.text = dotted.hops.map Hop.step := by
  unfold Path.steps text hops
  rw [String.toList_ofList, segments_hops, List.map_map]
  refine List.map_congr_left fun hop _ => ?_
  exact hop.ofChars_chars

end Dotted

/-! ## Tokens -/

namespace Hop

variable (hop : Hop) {cs : List Char} {tokens : List Token}

theorem scans_bracket (h : Scans cs tokens) :
    Scans (hop.bracketChars ++ cs) (hop.bracketTokens ++ tokens) := by
  unfold bracketChars bracketTokens
  cases hposition : hop.position with
  | none => exact h
  | some n =>
    obtain ⟨c, tail, hchars⟩ := List.exists_cons_of_ne_nil (Text.natText_ne_nil n)
    have hmem : c ∈ natText n := by
      rw [hchars]
      exact List.mem_cons_self
    have hblank := Text.isBlank_of_isDigit (Text.isDigit_of_mem_natText hmem)
    have hpoint : ∀ d more, ']' :: cs = '.' :: d :: more → Text.isDigit d = false := by
      rintro d more ⟨⟩
    have hread := Lexer.readToken_natText (hop.inRange n hposition) hchars rfl hpoint
    have hclose : Scans (']' :: cs) (.rightBracket :: tokens) := .sign rfl rfl h
    simp only [hchars, List.cons_append, List.append_assoc, List.nil_append]
    exact .sign rfl rfl (.token hblank hread hclose)

/-- The text of a hop is cut into its tokens, unless what follows goes on with a name. -/
theorem scans_chars (hstop : cs.head?.all (fun c => !isIdentifierContinue c) = true)
    (h : Scans cs tokens) : Scans (hop.chars ++ cs) (hop.tokens ++ tokens) := by
  obtain ⟨c, tail, hchars⟩ := exists_cons_of_isName hop.named
  have hstart := ((isName_iff hchars).1 hop.named).1
  have hstop' : (hop.bracketChars ++ cs).head?.all (fun c => !isIdentifierContinue c) = true := by
    unfold bracketChars
    split
    · exact hstop
    · rfl
  have hread := Lexer.readToken_name hop.named hchars hstop'
  rw [chars, hchars, List.append_assoc, List.cons_append]
  exact .token (Text.isBlank_of_isIdentifierStart hstart) hread (hop.scans_bracket h)

end Hop

namespace Dotted

/-- A dotted text is cut into the tokens of its hops with dots between them. -/
theorem scans_hops (first : Hop) (rest : List Hop) :
    Scans (first.chars ++ rest.flatMap fun hop => '.' :: hop.chars)
      (first.tokens ++ rest.flatMap fun hop => .dot :: hop.tokens) := by
  induction rest generalizing first with
  | nil => exact first.scans_chars rfl .done
  | cons next rest ih => exact first.scans_chars rfl (.sign rfl rfl (ih next))

end Dotted

/-! ## The expression -/

open Grammar

namespace Hop

variable (hop : Hop) {ts : List Token} {e : Expr}

theorem derives_bracket (h : Derives .navigation ts e) :
    Derives .navigation (ts ++ hop.bracketTokens) (hop.bracket e) := by
  unfold bracketTokens bracket
  cases hop.position with
  | none =>
    rw [List.append_nil]
    exact h
  | some n =>
    have hliteral : Derives .or [.integer (Int64.ofInt n)] (.literal (.integer (Int64.ofInt n))) :=
      (Derives.literal (.integer _)).loosen (by decide)
    exact .index h hliteral

end Hop

namespace Dotted

theorem derives_hops (rest : List Hop) {ts : List Token} {e : Expr}
    (h : Derives .navigation ts e) :
    Derives .navigation (ts ++ rest.flatMap fun hop => .dot :: hop.tokens)
      (rest.foldl (fun base hop => hop.bracket (.property base hop.name)) e) := by
  induction rest generalizing ts e with
  | nil =>
    rw [List.flatMap_nil, List.append_nil]
    exact h
  | cons hop rest ih =>
    have hnext := ih (hop.derives_bracket (.property h hop.name))
    simpa [Hop.tokens] using hnext

/-- **A dotted text is parsed to the navigation along its hops.** -/
theorem parse_text (dotted : Dotted) : Statement.parse dotted.text = .ok (.expr dotted.expr) := by
  have htokens : (TokenStream.ofText dotted.text).all = .ok dotted.tokens := by
    refine Scans.all_ofText ?_
    rw [text, String.toList_ofList]
    exact scans_hops dotted.first dotted.rest
  have hfirst : Derives .navigation dotted.first.tokens
      (dotted.first.bracket (.ident dotted.first.name)) :=
    dotted.first.derives_bracket (.primary (.name dotted.first.name))
  have hexpr : Derives .navigation dotted.tokens dotted.expr := derives_hops dotted.rest hfirst
  exact Parser.program_iff_sentence.2 ⟨_, htokens, .expr (hexpr.loosen (by decide))⟩

end Dotted

end DynamicSql
