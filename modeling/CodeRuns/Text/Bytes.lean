/-! Texts as the bytes of their UTF-8 encoding: places counted in bytes, and the text that a
part of such bytes shows, where a character that the part cuts short appears as one
replacement character. -/

namespace CodeRuns.Text

def bytes (s : String) : List UInt8 := s.toUTF8.data.toList

def ofBytes? (bs : List UInt8) : Option String := String.fromUTF8? ⟨bs.toArray⟩

def ofCutBytes (bs : List UInt8) : String :=
  match ofBytes? bs with
  | some s => s
  | none =>
    -- a character has four bytes at most
    let shorter := [1, 2, 3].findSome? fun n => ofBytes? (bs.take (bs.length - n))
    shorter.getD "" ++ "\uFFFD"

def splitBytes? (n : Nat) : List Char → Option (List Char × List Char)
  | [] => if n = 0 then some ([], []) else none
  | c :: cs =>
    if n = 0 then some ([], c :: cs)
    else if c.utf8Size ≤ n then
      (splitBytes? (n - c.utf8Size) cs).map fun (before, after) => (c :: before, after)
    else none

def placed (place : Nat) : List Char → List (Char × Nat)
  | [] => []
  | c :: cs => (c, place) :: placed (place + c.utf8Size) cs

theorem ofBytes?_bytes (s : String) : ofBytes? (bytes s) = some s := by
  rw [ofBytes?, bytes, Array.toArray_toList, String.fromUTF8?,
    dif_pos (show s.toUTF8.IsValidUTF8 from s.isValidUTF8)]
  rfl

theorem bytes_of_ofBytes? {bs : List UInt8} {s : String} (h : ofBytes? bs = some s) :
    bs = bytes s := by
  rw [ofBytes?, String.fromUTF8?] at h
  split at h
  · obtain rfl := Option.some.inj h
    rfl
  · cases h

theorem bytes_inj {s t : String} : bytes s = bytes t ↔ s = t := by
  refine ⟨fun h => ?_, congrArg bytes⟩
  have hread := ofBytes?_bytes s
  rw [h, ofBytes?_bytes] at hread
  exact (Option.some.inj hread).symm

theorem bytes_append (s t : String) : bytes (s ++ t) = bytes s ++ bytes t := by
  simp [bytes, String.toUTF8]

end CodeRuns.Text
