import DynamicSql.Proofs.Expr.Taken
import DynamicSql.Proofs.Text.Slices
import Mathlib.Data.List.Forall2

/-!
# The spans of tokens in a text

A text without a fault is cut into blanks and the spans of its tokens (`Cut`).  A span is as much
of the text as its token takes, and so it is read as that token wherever it stands before a
blank or at the end: alone, or joined to others by spaces.  The spans stand in the text at the
byte positions of the lexemes, one behind the other, with only blanks around them:
`TokenStream.spans_lossless`.
-/

namespace DynamicSql

open Text (isBlank)

namespace Lexer

theorem bytes_append (cs ds : List Char) : bytes (cs ++ ds) = bytes cs + bytes ds := by
  induction cs with
  | nil => exact (Nat.zero_add _).symm
  | cons c cs ih => rw [List.cons_append, bytes, bytes, ih, Nat.add_assoc]

/-- The bytes of characters are those of their text. -/
theorem utf8ByteSize_ofList (cs : List Char) : (String.ofList cs).utf8ByteSize = bytes cs := by
  induction cs with
  | nil => rfl
  | cons c cs ih =>
    rw [String.ofList_cons, String.utf8ByteSize_append, String.utf8ByteSize_singleton, ih, bytes]

theorem utf8ByteSize_eq (text : String) : text.utf8ByteSize = bytes text.toList := by
  rw [← utf8ByteSize_ofList, String.ofList_toList]

theorem bytes_pos {cs : List Char} (h : cs ≠ []) : 0 < bytes cs := by
  obtain ⟨c, cs, rfl⟩ := List.exists_cons_of_ne_nil h
  exact Nat.add_pos_left c.utf8Size_pos _

/-- Where the parts of what is left of a text start and end, told from the end of the text. -/
theorem position_parts {gap span rest : List Char} {position total : Nat}
    (htotal : position + bytes (gap ++ (span ++ rest)) = total) :
    total - bytes (span ++ rest) = position + bytes gap ∧
      total - bytes rest = position + bytes gap + bytes span ∧
      position + bytes gap + bytes span + bytes rest = total := by
  simp only [bytes_append] at htotal ⊢
  omega

/-- The characters between others stand at the positions of their bytes. -/
theorem slice?_ofList (before part behind : List Char) :
    Text.slice? (String.ofList (before ++ (part ++ behind))) (bytes before)
      (bytes before + bytes part) = some (String.ofList part) := by
  rw [← List.append_assoc, String.ofList_append, String.ofList_append, ← bytes_append,
    ← utf8ByteSize_ofList, ← utf8ByteSize_ofList, String.ofList_append]
  exact Text.slice?_append _ _ _

end Lexer

open Lexer (bytes)

namespace Lexeme

/-- The part of a text that a lexeme stands for. -/
def span? (text : String) (lexeme : Lexeme) : Option String :=
  Text.slice? text lexeme.start lexeme.stop

/-- A byte position lies within the span of a lexeme. -/
def Covers (lexeme : Lexeme) (n : Nat) : Prop := lexeme.start ≤ n ∧ n < lexeme.stop

end Lexeme

/-! ## Spans -/

/-- Characters that are read as a token before a blank or at the end of a text. -/
inductive Token.ReadFrom (token : Token) : List Char → Prop
  | intro {c : Char} {tail : List Char} (hblank : isBlank c = false)
      (hread : ∀ more, more.head?.all isBlank = true →
        Lexer.readToken c (tail ++ more) = .ok (token, more)) : ReadFrom token (c :: tail)

namespace Token.ReadFrom

variable {token : Token} {span : List Char}

theorem ne_nil (h : token.ReadFrom span) : span ≠ [] := by
  cases h
  exact List.cons_ne_nil _ _

/-- Before a blank or at the end of a text a span is cut off as its token. -/
theorem lexes {more : List Char} {tokens : List Token} (h : token.ReadFrom span)
    (hmore : more.head?.all isBlank = true) (hrest : Lexes more tokens) :
    Lexes (span ++ more) (token :: tokens) := by
  obtain ⟨hblank, hread⟩ := h
  exact .token hblank (hread more hmore) hrest

theorem lexes_alone (h : token.ReadFrom span) : Lexes span [token] := by
  have halone := h.lexes rfl .done
  rwa [List.append_nil] at halone

end Token.ReadFrom

/-- Spans that are joined by spaces are cut into their tokens. -/
theorem Lexes.joined {tokens : List Token} {spans : List (List Char)}
    (h : List.Forall₂ Token.ReadFrom tokens spans) :
    Lexes ([' '].intercalate spans) tokens := by
  induction h with
  | nil => exact .done
  | cons hfirst hrest ih =>
    cases hrest with
    | nil =>
      rw [List.intercalate_singleton]
      exact hfirst.lexes_alone
    | cons =>
      rw [List.intercalate_cons_cons, List.append_assoc]
      exact hfirst.lexes rfl (.blank rfl ih)

/-! ## Cutting a text -/

/-- How a text is cut from a byte position on: blanks, then the span of a token between the
positions of its lexeme, and so on up to the blanks at the end. -/
inductive Cut : (position : Nat) → List Char → List Lexeme → Prop
  | done {position : Nat} {gap : List Char} (hgap : ∀ c ∈ gap, isBlank c = true) :
      Cut position gap []
  | next {position : Nat} {gap span rest : List Char} {token : Token} {lexemes : List Lexeme}
      (hgap : ∀ c ∈ gap, isBlank c = true) (hspan : token.ReadFrom span)
      (h : Cut (position + bytes gap + bytes span) rest lexemes) :
      Cut position (gap ++ (span ++ rest))
        (⟨token, position + bytes gap, position + bytes gap + bytes span⟩ :: lexemes)

/-- The stream of a text without a fault cuts it, since every token takes a character at
least. -/
theorem cut_ofChars {total position fuel : Nat} {cs : List Char} (hfuel : cs.length < fuel)
    (htotal : position + bytes cs = total)
    (h : (TokenStream.ofChars total fuel cs).error? = none) :
    Cut position cs (TokenStream.ofChars total fuel cs).lexemes := by
  induction fuel generalizing position cs with
  | zero => exact absurd hfuel (Nat.not_lt_zero _)
  | succ fuel ih =>
    obtain ⟨gap, after, rfl, hgap, hafter⟩ := Text.exists_stop isBlank cs
    have hdrop : (gap ++ after).dropWhile isBlank = after :=
      (Text.takeWhile_append_stop hgap hafter).2
    rw [TokenStream.ofChars, hdrop] at h ⊢
    cases after with
    | nil =>
      rw [List.append_nil]
      exact .done hgap
    | cons c after =>
      dsimp only at h ⊢
      cases hread : Lexer.readToken c after with
      | error cause =>
        rw [hread] at h
        cases h
      | ok result =>
        obtain ⟨token, rest⟩ := result
        obtain ⟨taken, rfl, htaken⟩ := Lexer.readToken_takes hread
        rw [hread] at h
        have hspan : token.ReadFrom (c :: taken) := .intro (by simpa using hafter) htaken
        rw [← List.cons_append] at htotal
        obtain ⟨hstart, hstop, hrest⟩ := Lexer.position_parts htotal
        rw [List.cons_append] at hstart
        have hshort : rest.length < fuel := by
          simp only [List.length_append, List.length_cons] at hfuel
          omega
        rw [TokenStream.lexemes, hstart, hstop]
        exact .next hgap hspan (ih hshort hrest h)

/-- A character behind some others stands either in the first part of a text or behind it. -/
theorem append_eq_append_cons {cs ds before behind : List Char} {c : Char}
    (h : cs ++ ds = before ++ c :: behind) :
    (∃ more, cs = before ++ c :: more) ∨ ∃ tail, before = cs ++ tail ∧ ds = tail ++ c :: behind := by
  obtain ⟨tail, hbefore, hds⟩ | ⟨more, hcs, hmore⟩ := List.append_eq_append_iff.1 h
  · exact .inr ⟨tail, hbefore, hds⟩
  · cases more with
    | nil =>
      refine .inr ⟨[], ?_, hmore.symm⟩
      rw [List.append_nil] at hcs ⊢
      exact hcs.symm
    | cons d more =>
      cases hmore
      exact .inl ⟨more, hcs⟩

namespace Cut

variable {position : Nat} {cs : List Char} {lexemes : List Lexeme}

/-- Spans are not empty and lie behind the position. -/
theorem bounds (h : Cut position cs lexemes) {lexeme : Lexeme} (hlexeme : lexeme ∈ lexemes) :
    position ≤ lexeme.start ∧ lexeme.start < lexeme.stop := by
  induction h with
  | done => cases hlexeme
  | next _ hspan _ ih =>
    have hpos := Lexer.bytes_pos hspan.ne_nil
    cases hlexeme with
    | head => exact ⟨Nat.le_add_right _ _, Nat.lt_add_of_pos_right hpos⟩
    | tail _ hmem =>
      obtain ⟨hstart, hstop⟩ := ih hmem
      exact ⟨by omega, hstop⟩

/-- A span ends before the next ones start. -/
theorem pairwise (h : Cut position cs lexemes) :
    lexemes.Pairwise fun earlier later => earlier.stop ≤ later.start := by
  induction h with
  | done => exact .nil
  | next _ _ hrest ih => exact .cons (fun later hlater => (hrest.bounds hlater).1) ih

/-- A character that is in no span is blank. -/
theorem isBlank_of_not_covers {before behind : List Char} {c : Char}
    (h : Cut position (before ++ c :: behind) lexemes)
    (hout : ∀ lexeme ∈ lexemes, ¬lexeme.Covers (position + bytes before)) : isBlank c = true := by
  generalize hcs : before ++ c :: behind = cs at h
  induction h generalizing before with
  | done hgap => exact hgap c (hcs ▸ List.mem_append_right _ List.mem_cons_self)
  | @next position gap span rest token lexemes hgap hspan hrest ih =>
    have hfirst := hout _ List.mem_cons_self
    -- the character stands in the blanks, in the span or in the rest
    obtain ⟨more, rfl⟩ | ⟨tail, rfl, hafter⟩ := append_eq_append_cons hcs.symm
    · exact hgap c (List.mem_append_right _ List.mem_cons_self)
    obtain ⟨more, rfl⟩ | ⟨tail, rfl, hbehind⟩ := append_eq_append_cons hafter
    · refine absurd ?_ hfirst
      have hpos := Lexer.bytes_pos (List.cons_ne_nil c more)
      simp only [Lexeme.Covers, Lexer.bytes_append]
      omega
    · refine ih (fun lexeme hlexeme => ?_) hbehind.symm
      have hrestOut := hout lexeme (List.mem_cons_of_mem _ hlexeme)
      simpa only [Lexer.bytes_append, Nat.add_assoc] using hrestOut

/-- The spans stand in the text at the positions of their lexemes. -/
theorem exists_spans {before : List Char} (h : Cut position cs lexemes)
    (hposition : bytes before = position) :
    ∃ spans, List.Forall₂ Token.ReadFrom (lexemes.map Lexeme.token) spans ∧
      lexemes.map (Lexeme.span? (String.ofList (before ++ cs))) =
        spans.map fun span => some (String.ofList span) := by
  induction h generalizing before with
  | done => exact ⟨[], .nil, rfl⟩
  | @next position gap span rest token lexemes _ hspan _ ih =>
    have hgap : bytes (before ++ gap) = position + bytes gap := by
      rw [Lexer.bytes_append, hposition]
    have hstop : bytes (before ++ gap ++ span) = position + bytes gap + bytes span := by
      rw [Lexer.bytes_append, hgap]
    obtain ⟨spans, hread, hspans⟩ := ih hstop
    refine ⟨span :: spans, .cons hspan hread, ?_⟩
    have hfirst := Lexer.slice?_ofList (before ++ gap) span rest
    rw [hgap] at hfirst
    simp only [List.append_assoc] at hfirst hspans
    rw [List.map_cons, List.map_cons, hspans]
    exact congrArg (· :: _) hfirst

end Cut

/-! ## The whole -/

namespace TokenStream

/-- The stream of a text without a fault cuts the whole text. -/
theorem cut_ofText {text : String} (h : (ofText text).error? = none) :
    Cut 0 text.toList (ofText text).lexemes :=
  cut_ofChars (Nat.lt_succ_self _) (Nat.zero_add _) h

variable {tokens : List Token}

theorem all_joined {spans : List (List Char)}
    (h : List.Forall₂ Token.ReadFrom tokens spans) :
    (ofText (" ".intercalate (spans.map String.ofList))).all = .ok tokens := by
  refine Lexes.all_ofText ?_
  have htexts : (spans.map String.ofList).map String.toList = spans := by
    simp only [List.map_map, Function.comp_def, String.toList_ofList, List.map_id']
  rw [String.toList_intercalate, htexts]
  exact .joined h

theorem all_alone {spans : List (List Char)}
    (h : List.Forall₂ Token.ReadFrom tokens spans) :
    (spans.map String.ofList).map (fun span => (ofText span).all) =
      tokens.map fun token => .ok [token] := by
  induction h with
  | nil => rfl
  | @cons token span _ _ hspan _ ih =>
    have hfirst : (ofText (String.ofList span)).all = .ok [token] := by
      refine Lexes.all_ofText ?_
      rw [String.toList_ofList]
      exact hspan.lexes_alone
    rw [List.map_cons, List.map_cons, List.map_cons, hfirst, ih]

/-- **Reading tokens loses nothing.**  The spans of a text without a fault are not empty, start
and end at boundaries of characters and follow one another, and whatever is in none of them is
blank.  A span by itself is read as its token, and the spans, joined by spaces, are read as the
tokens of the text. -/
theorem spans_lossless {text : String} (h : (ofText text).all = .ok tokens) :
    (∀ lexeme ∈ (ofText text).lexemes, lexeme.start < lexeme.stop ∧
      (String.Pos.Raw.mk lexeme.start).IsValid text ∧
      (String.Pos.Raw.mk lexeme.stop).IsValid text) ∧
    ((ofText text).lexemes.Pairwise fun earlier later => earlier.stop ≤ later.start) ∧
    (∀ (p : text.Pos) (hp : p ≠ text.endPos),
      (∀ lexeme ∈ (ofText text).lexemes, ¬lexeme.Covers p.offset.byteIdx) →
        isBlank (p.get hp) = true) ∧
    ∃ spans : List String,
      (ofText text).lexemes.map (Lexeme.span? text) = spans.map some ∧
      spans.map (fun span => (ofText span).all) = tokens.map (fun token => .ok [token]) ∧
      (ofText (" ".intercalate spans)).all = .ok tokens := by
  obtain ⟨hnone, rfl⟩ := all_eq_ok_iff.1 h
  have hcut := cut_ofText hnone
  obtain ⟨spans, hread, hspans⟩ := hcut.exists_spans (rfl : bytes [] = 0)
  rw [List.nil_append, String.ofList_toList, ← Function.comp_def some, ← List.map_map] at hspans
  refine ⟨fun lexeme hlexeme => ?_, hcut.pairwise, fun p hp hout => ?_, ?_⟩
  · have hmem : lexeme.span? text ∈ (spans.map String.ofList).map some :=
      hspans ▸ List.mem_map_of_mem hlexeme
    obtain ⟨span, _, hspan⟩ := List.mem_map.1 hmem
    exact ⟨(hcut.bounds hlexeme).2, Text.isValid_of_slice? hspan.symm⟩
  · obtain ⟨htext, hoffset⟩ := Text.splits_iff.1 (p.splits_next_right hp)
    have hchars : text.toList = (text.sliceTo p).copy.toList ++
        p.get hp :: (text.sliceFrom (p.next hp)).copy.toList := by
      have hparts := congrArg String.toList htext
      rwa [String.toList_append, String.toList_append, String.toList_singleton] at hparts
    rw [hchars] at hcut
    rw [hoffset, Lexer.utf8ByteSize_eq, ← Nat.zero_add (bytes _)] at hout
    exact hcut.isBlank_of_not_covers hout
  · exact ⟨spans.map String.ofList, hspans, all_alone hread, all_joined hread⟩

/-- The spans of a comparison and a literal without a blank before it. -/
theorem spans_lossless_size :
    (ofText "größe<=1.5 or'ß'").all =
      .ok [.identifier "größe", .lessEqual, .decimal "1.5", .or, .string "ß"] ∧
    ["größe", "<=", "1.5", "or", "'ß'"].map (fun span => (ofText span).all) =
      [.ok [.identifier "größe"], .ok [.lessEqual], .ok [.decimal "1.5"], .ok [.or],
        .ok [.string "ß"]] ∧
    (ofText "größe <= 1.5 or 'ß'").all =
      .ok [.identifier "größe", .lessEqual, .decimal "1.5", .or, .string "ß"] := by
  have hall : (ofText "größe<=1.5 or'ß'").all =
      .ok [.identifier "größe", .lessEqual, .decimal "1.5", .or, .string "ß"] :=
    all_eq_ok_iff.2 ⟨by decide +kernel, by decide +kernel⟩
  obtain ⟨_, _, _, spans, hspans, halone, hjoined⟩ := spans_lossless hall
  have hparts : (ofText "größe<=1.5 or'ß'").lexemes.map (Lexeme.span? "größe<=1.5 or'ß'") =
      ["größe", "<=", "1.5", "or", "'ß'"].map some := by decide +kernel
  obtain rfl := (List.map_inj_right fun _ _ => Option.some.inj).1 (hparts.symm.trans hspans)
  exact ⟨hall, halone, hjoined⟩

end TokenStream

end DynamicSql
