import Std.Data.String.ToNat
import Mathlib.Data.Nat.Notation
import Mathlib.Data.Int.Notation

/-!
# Codecs with a round trip

A codec writes a value as a list of numbers and reads it back from the front of a list,
returning what is left over. The round trip is a field, so codecs composed from codecs
need no further proof. A last step writes a list of numbers as text over the decimal
digits and the comma.
-/

namespace Serial

variable {α β : Type}

/-- A way to write values as numbers and to read them back, whatever follows. -/
structure Codec (α : Type) where
  encode : α → List ℕ
  decode : List ℕ → Option (α × List ℕ)
  decode_encode : ∀ v rest, decode (encode v ++ rest) = some (v, rest)

namespace Codec

/-- One number. -/
def nat : Codec ℕ where
  encode n := [n]
  decode
    | [] => none
    | n :: rest => some (n, rest)
  decode_encode _ _ := rfl

/-- A codec for values that correspond to coded ones. -/
def map (c : Codec α) (f : α → β) (g : β → α) (h : ∀ b, f (g b) = b) : Codec β where
  encode b := c.encode (g b)
  decode l := (c.decode l).map fun r => (f r.1, r.2)
  decode_encode b rest := by simp [c.decode_encode, h]

/-- A value, then another. -/
def pair (c : Codec α) (d : Codec β) : Codec (α × β) where
  encode v := c.encode v.1 ++ d.encode v.2
  decode l := do
    let (a, l) ← c.decode l
    let (b, l) ← d.decode l
    some ((a, b), l)
  decode_encode v rest := by
    simp only [List.append_assoc, c.decode_encode, d.decode_encode, Option.bind_eq_bind, Option.bind_some]

/-- A flag, then the value if there is one. -/
def option (c : Codec α) : Codec (Option α) where
  encode
    | none => [0]
    | some v => 1 :: c.encode v
  decode
    | 0 :: rest => some (none, rest)
    | _ :: rest => (c.decode rest).map fun r => (some r.1, r.2)
    | [] => none
  decode_encode v rest := by
    cases v with
    | none => rfl
    | some v => simp [c.decode_encode]

/-- A flag, then the value of either kind. -/
def sum (c : Codec α) (d : Codec β) : Codec (α ⊕ β) where
  encode
    | .inl v => 0 :: c.encode v
    | .inr v => 1 :: d.encode v
  decode
    | 0 :: rest => (c.decode rest).map fun r => (.inl r.1, r.2)
    | _ :: rest => (d.decode rest).map fun r => (.inr r.1, r.2)
    | [] => none
  decode_encode v rest := by
    cases v with
    | inl v => simp [c.decode_encode]
    | inr v => simp [d.decode_encode]

/-- Read a given number of values. -/
def decodeMany (c : Codec α) : ℕ → List ℕ → Option (List α × List ℕ)
  | 0, rest => some ([], rest)
  | n + 1, rest => do
    let (v, rest) ← c.decode rest
    let (vs, rest) ← c.decodeMany n rest
    some (v :: vs, rest)

/-- The values of an encoded list are decoded one after the other. -/
theorem decodeMany_flatMap (c : Codec α) (vs : List α) (rest : List ℕ) :
    c.decodeMany vs.length (vs.flatMap c.encode ++ rest) = some (vs, rest) := by
  induction vs with
  | nil => rfl
  | cons v vs ih =>
    simp only [List.length_cons, List.flatMap_cons, List.append_assoc, decodeMany, c.decode_encode, ih,
      Option.bind_eq_bind, Option.bind_some]

/-- The length, then the values. -/
def list (c : Codec α) : Codec (List α) where
  encode vs := vs.length :: vs.flatMap c.encode
  decode
    | [] => none
    | n :: rest => c.decodeMany n rest
  decode_encode vs rest := c.decodeMany_flatMap vs rest

/-- A string, by its characters. -/
def string : Codec String :=
  (list (nat.map Char.ofNat Char.toNat Char.ofNat_toNat)).map String.ofList String.toList
    fun _ => String.ofList_toList

/-- An integer, by its sign and its absolute value. -/
def int : Codec ℤ :=
  (sum nat nat).map
    (fun | .inl n => Int.ofNat n | .inr n => Int.negSucc n)
    (fun | .ofNat n => .inl n | .negSucc n => .inr n)
    (fun z => by cases z <;> rfl)

/-- A bit vector, by its number. -/
def bitVec (w : ℕ) : Codec (BitVec w) :=
  nat.map (BitVec.ofNat w) BitVec.toNat (fun v => by simp)

end Codec

/-- Numbers in decimal, each ended by a comma. -/
def render (l : List ℕ) : List Char := l.flatMap fun n => Nat.toDigits 10 n ++ [',']

/-- Read numbers ended by commas; `digits` holds the digits of the number being read, reversed. -/
def parse (digits : List Char) : List Char → List ℕ
  | [] => []
  | c :: cs =>
    if c = ',' then Nat.ofDigitChars 10 digits.reverse 0 :: parse [] cs else parse (c :: digits) cs

/-- Digits up to a comma are parsed as one number. -/
theorem parse_append {cs : List Char} (hcs : ',' ∉ cs) (digits rest : List Char) :
    parse digits (cs ++ ',' :: rest) =
      Nat.ofDigitChars 10 (digits.reverse ++ cs) 0 :: parse [] rest := by
  induction cs generalizing digits with
  | nil => simp [parse]
  | cons c cs ih =>
    have hc : c ≠ ',' := fun h => hcs (h ▸ List.mem_cons_self)
    have htail := ih (fun h => hcs (List.mem_cons_of_mem c h)) (c :: digits)
    simpa [parse, hc] using htail

/-- No digit is a comma. -/
theorem comma_not_mem_toDigits (n : ℕ) : ',' ∉ Nat.toDigits 10 n := by
  intro hmem
  have hdigit : (','.isDigit) = true := Nat.isDigit_of_mem_toDigits (by decide) (by decide) hmem
  exact absurd hdigit (by decide)

/-- A list of numbers is rendered one number after the other, each with a comma behind it. -/
theorem render_cons (n : ℕ) (l : List ℕ) : render (n :: l) = Nat.toDigits 10 n ++ ',' :: render l := by
  simp [render]

/-- Rendered numbers are read back. -/
theorem parse_render (l : List ℕ) : parse [] (render l) = l := by
  induction l with
  | nil => rfl
  | cons n l ih =>
    rw [render_cons, parse_append (comma_not_mem_toDigits n), ih, List.reverse_nil, List.nil_append,
      Nat.ofDigitChars_ten_toDigits]

/-- Rendered numbers are free of every character that is no digit and no comma. -/
theorem not_mem_render {c : Char} (hdigit : c.isDigit = false) (hcomma : c ≠ ',') (l : List ℕ) : c ∉ render l := by
  intro hmem
  obtain ⟨n, -, hn⟩ := List.mem_flatMap.mp hmem
  rcases List.mem_append.mp hn with hdigits | hlast
  · rw [Nat.isDigit_of_mem_toDigits (by decide) (by decide) hdigits] at hdigit
    cases hdigit
  · exact hcomma (List.mem_singleton.mp hlast)

/-- Rendered numbers are free of dots. -/
theorem dot_not_mem_render (l : List ℕ) : '.' ∉ render l := not_mem_render (by decide) (by decide) l

end Serial
