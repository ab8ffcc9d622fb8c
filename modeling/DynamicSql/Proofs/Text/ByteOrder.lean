import Mathlib.Tactic.SplitIfs

/-!
# The order of texts and of their bytes

Texts are ordered by their characters.  In UTF-8 this is the order of their bytes: of two
characters the smaller one has a smaller byte at the first place where their bytes differ,
and there is such a place in both.
-/

namespace DynamicSql.Text

/-- The bytes of a text in UTF-8. -/
def bytes (text : String) : List UInt8 := text.toUTF8.data.toList

/-- Whether two sequences differ at a place in both, where the first is smaller: nothing
that follows them changes how they compare. -/
def SplitsBelow (first second : List UInt8) : Prop :=
  ∀ more other : List UInt8, first ++ more < second ++ other

namespace SplitsBelow

variable {first second : List UInt8}

theorem of_head_lt {a b : UInt8} (h : a < b) (first second : List UInt8) :
    SplitsBelow (a :: first) (b :: second) :=
  fun _ _ => List.cons_lt_cons_iff.2 (.inl h)

theorem append (h : SplitsBelow first second) (more other : List UInt8) :
    SplitsBelow (first ++ more) (second ++ other) := by
  intro x y
  rw [List.append_assoc, List.append_assoc]
  exact h _ _

theorem append_left (start : List UInt8) (h : SplitsBelow first second) :
    SplitsBelow (start ++ first) (start ++ second) := by
  intro x y
  rw [List.append_assoc, List.append_assoc]
  exact List.append_left_lt (h x y)

end SplitsBelow

/-! ## Characters -/

/-- The bytes that numbers below a bound are written with keep their order. -/
def Ascending (write : Nat → List UInt8) (bound : Nat) : Prop :=
  ∀ m n, m < n → n < bound → SplitsBelow (write m) (write n)

/-- The first byte of several: a mark and the highest bits of a number. -/
def leadByte (mark size n : Nat) : UInt8 := UInt8.ofNat (n % size + mark)

/-- A further byte: six bits of a number. -/
def nextByte (n : Nat) : UInt8 := UInt8.ofNat (n % 64 + 128)

theorem ofNat_lt {m n : Nat} (h : m < n) (hn : n < 256) : UInt8.ofNat m < UInt8.ofNat n :=
  (UInt8.ofNat_lt_iff_lt (Nat.lt_trans h hn) hn).2 h

theorem ascending_leadByte {mark size : Nat} (h : mark + size ≤ 256) :
    Ascending (fun n => [leadByte mark size n]) size := by
  intro m n hmn hn
  have hm : m % size = m := Nat.mod_eq_of_lt (Nat.lt_trans hmn hn)
  refine .of_head_lt (ofNat_lt ?_ ?_) [] [] <;> rw [Nat.mod_eq_of_lt hn] <;> omega

/-- A lead byte tells how many bytes there are: nothing below its mark reaches it. -/
theorem lt_leadByte {m mark size : Nat} (h : m < mark) (h' : mark + size ≤ 256) (hsize : 0 < size)
    (n : Nat) : UInt8.ofNat m < leadByte mark size n := by
  have hn := Nat.mod_lt n hsize
  exact ofNat_lt (by omega) (by omega)

/-- Six more bits in a byte of their own: the numbers that are written keep their order. -/
theorem Ascending.nextByte {write : Nat → List UInt8} {bound : Nat} (h : Ascending write bound) :
    Ascending (fun n => write (n / 64) ++ [nextByte n]) (64 * bound) := by
  intro m n hmn hn
  rcases Nat.lt_or_ge (m / 64) (n / 64) with hlt | hge
  · exact (h _ _ hlt (by omega)).append _ _
  · -- all higher bits agree, and so the last six decide
    have heq : m / 64 = n / 64 := by omega
    show SplitsBelow (write (m / 64) ++ _) _
    rw [heq]
    exact .append_left _ (.of_head_lt (ofNat_lt (by omega) (by omega)) [] [])

/-- The bytes of a character, by the number of them. -/
theorem utf8EncodeChar_eq (c : Char) : String.utf8EncodeChar c =
    if c.toNat ≤ 127 then [UInt8.ofNat c.toNat]
    else if c.toNat ≤ 2047 then [leadByte 192 32 (c.toNat / 64), nextByte c.toNat]
    else if c.toNat ≤ 65535 then
      [leadByte 224 16 (c.toNat / 64 / 64), nextByte (c.toNat / 64), nextByte c.toNat]
    else
      [leadByte 240 8 (c.toNat / 64 / 64 / 64), nextByte (c.toNat / 64 / 64),
        nextByte (c.toNat / 64), nextByte c.toNat] := by
  simp only [Nat.div_div_eq_div_mul, Nat.reduceMul]
  rfl

theorem splitsBelow_utf8EncodeChar {c d : Char} (h : c < d) :
    SplitsBelow (String.utf8EncodeChar c) (String.utf8EncodeChar d) := by
  have hlt : c.toNat < d.toNat := h
  have hd : d.toNat < 0xD800 ∨ 0xDFFF < d.toNat ∧ d.toNat < 0x110000 := d.valid
  have htwo := (ascending_leadByte (by decide : 192 + 32 ≤ 256)).nextByte
  have hthree := (ascending_leadByte (by decide : 224 + 16 ≤ 256)).nextByte.nextByte
  have hfour := (ascending_leadByte (by decide : 240 + 8 ≤ 256)).nextByte.nextByte.nextByte
  rw [utf8EncodeChar_eq, utf8EncodeChar_eq]
  split_ifs <;> try omega
  -- the first of them has one byte
  · exact .of_head_lt (ofNat_lt hlt (by omega)) [] []
  · exact .of_head_lt (lt_leadByte (by omega) (by decide) (by decide) _) _ _
  · exact .of_head_lt (lt_leadByte (by omega) (by decide) (by decide) _) _ _
  · exact .of_head_lt (lt_leadByte (by omega) (by decide) (by decide) _) _ _
  -- two bytes
  · exact htwo _ _ hlt (by omega)
  · exact .of_head_lt (lt_leadByte (by omega) (by decide) (by decide) _) _ _
  · exact .of_head_lt (lt_leadByte (by omega) (by decide) (by decide) _) _ _
  -- three bytes
  · exact hthree _ _ hlt (by omega)
  · exact .of_head_lt (lt_leadByte (by omega) (by decide) (by decide) _) _ _
  -- four bytes
  · exact hfour _ _ hlt (by omega)

/-! ## Texts -/

theorem flatMap_utf8EncodeChar_lt {cs ds : List Char} (h : cs < ds) :
    cs.flatMap String.utf8EncodeChar < ds.flatMap String.utf8EncodeChar := by
  induction h with
  | nil =>
    rename_i d ds
    obtain ⟨byte, more, hbytes⟩ :=
      List.exists_cons_of_ne_nil (@String.utf8EncodeChar_ne_nil d)
    rw [List.flatMap_cons, hbytes]
    exact List.nil_lt_cons _ _
  | rel h => exact splitsBelow_utf8EncodeChar h _ _
  | cons _ ih => exact List.append_left_lt ih

/-- A smaller text has smaller bytes. -/
theorem bytes_lt {text other : String} (h : text < other) : bytes text < bytes other := by
  unfold bytes String.toUTF8
  rw [← String.utf8Encode_toList, ← String.utf8Encode_toList]
  unfold List.utf8Encode
  rw [List.toList_data_toByteArray, List.toList_data_toByteArray]
  exact flatMap_utf8EncodeChar_lt h

end DynamicSql.Text
