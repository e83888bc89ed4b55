/-!
# Bytes as text

Reading bytes as UTF-8, where a maximal ill-formed run of bytes stands for no character. The strict
reading wants none of those; the lossy reading writes the replacement character for each.
-/

namespace Switchboard.Text

/-- The length of the sequence a lead byte opens, with the least and greatest second byte. -/
def leadByte (b : UInt8) : Option (Nat × UInt8 × UInt8) :=
  if 0xC2 ≤ b && b ≤ 0xDF then some (2, 0x80, 0xBF)
  else if b == 0xE0 then some (3, 0xA0, 0xBF)
  else if b == 0xED then some (3, 0x80, 0x9F)
  else if 0xE1 ≤ b && b ≤ 0xEF then some (3, 0x80, 0xBF)
  else if b == 0xF0 then some (4, 0x90, 0xBF)
  else if 0xF1 ≤ b && b ≤ 0xF3 then some (4, 0x80, 0xBF)
  else if b == 0xF4 then some (4, 0x80, 0x8F)
  else none

/-- A byte that continues a sequence. -/
def isTail (b : UInt8) : Bool := 0x80 ≤ b && b ≤ 0xBF

/-- The scalar of a sequence, from the lead byte's payload and the bytes after it. -/
def scalar (lead : Nat) (tails : List UInt8) : Char :=
  Char.ofNat (tails.foldl (fun n b => n * 64 + (b.toNat - 0x80)) lead)

/-- The first character of `b :: rest`, or `none` for an ill-formed run, and how much of `rest`
it takes. -/
def decodeFirst (b : UInt8) (rest : List UInt8) : Option Char × Nat :=
  if b < 0x80 then (some (Char.ofNat b.toNat), 0)
  else match leadByte b, rest with
    | none, _ => (none, 0)
    | some _, [] => (none, 0)
    | some (width, low, high), t₁ :: rest =>
      if !(low ≤ t₁ && t₁ ≤ high) then (none, 0)
      else if width == 2 then (some (scalar (b.toNat - 0xC0) [t₁]), 1)
      else match rest with
        | [] => (none, 1)
        | t₂ :: rest =>
          if !isTail t₂ then (none, 1)
          else if width == 3 then (some (scalar (b.toNat - 0xE0) [t₁, t₂]), 2)
          else match rest with
            | [] => (none, 2)
            | t₃ :: _ =>
              if !isTail t₃ then (none, 2)
              else (some (scalar (b.toNat - 0xF0) [t₁, t₂, t₃]), 3)

/-- The characters of `bytes`, with `none` where a run of them is ill-formed. -/
def decodeUtf8 (bytes : List UInt8) : List (Option Char) := go bytes []
where
  go : List UInt8 → List (Option Char) → List (Option Char)
    | [], read => read.reverse
    | b :: rest, read =>
      let (c, taken) := decodeFirst b rest
      go (rest.drop taken) (c :: read)
  termination_by bytes => bytes.length
  decreasing_by
    simp only [List.length_drop, List.length_cons]
    omega

/-- Well-formed bytes as a string. -/
def ofUtf8? (bytes : List UInt8) : Option String :=
  ((decodeUtf8 bytes).mapM id).map String.ofList

/-- Bytes as characters, the replacement character standing for each ill-formed run. -/
def ofUtf8Lossy (bytes : List UInt8) : List Char :=
  (decodeUtf8 bytes).map (·.getD '\uFFFD')

def utf8 (s : String) : List UInt8 := s.toUTF8.data.toList

theorem utf8_inj {s t : String} : utf8 s = utf8 t ↔ s = t := by
  rw [utf8, utf8, Array.toList_inj, ← ByteArray.ext_iff]
  exact String.toByteArray_inj

end Switchboard.Text
