namespace MergeNotes.Chars

/-- The twenty-five characters with the White_Space property. -/
def isBlank (c : Char) : Bool :=
  let n := c.toNat
  (0x09 ≤ n && n ≤ 0x0D) || n == 0x20 || n == 0x85 || n == 0xA0 || n == 0x1680 ||
    (0x2000 ≤ n && n ≤ 0x200A) || n == 0x2028 || n == 0x2029 || n == 0x202F || n == 0x205F ||
    n == 0x3000

/-- Blank characters below 128, without the vertical tab. -/
def isAsciiBlank (c : Char) : Bool :=
  c == ' ' || c == '\t' || c == '\n' || c == '\r' || c == '\x0c'

def isAsciiSpace (c : Char) : Bool := isAsciiBlank c || c == '\x0b'

def allBlank (cs : List Char) : Bool := cs.all isBlank

def trimStartBy (p : Char → Bool) (cs : List Char) : List Char := cs.dropWhile p

def trimEndBy (p : Char → Bool) (cs : List Char) : List Char :=
  (cs.reverse.dropWhile p).reverse

def trimBy (p : Char → Bool) (cs : List Char) : List Char := trimEndBy p (trimStartBy p cs)

def trimStart (cs : List Char) : List Char := trimStartBy isBlank cs

def trimEnd (cs : List Char) : List Char := trimEndBy isBlank cs

def trim (cs : List Char) : List Char := trimBy isBlank cs

/-- The stretches between the characters that satisfy `p`; always one more than those. -/
def pieces (p : Char → Bool) : List Char → List (List Char)
  | [] => [[]]
  | c :: cs =>
    if p c then [] :: pieces p cs
    else match pieces p cs with
      | [] => [[c]]
      | w :: ws => (c :: w) :: ws

theorem mem_pieces {p : Char → Bool} {cs w : List Char} (hw : w ∈ pieces p cs) :
    ∀ c ∈ w, p c = false := by
  induction cs generalizing w with
  | nil => simp_all [pieces]
  | cons c cs ih =>
    simp only [pieces] at hw
    split at hw
    · rcases List.mem_cons.1 hw with rfl | hw
      · simp
      · exact ih hw
    · rename_i hc
      split at hw
      · simp_all
      · rename_i v vs hv
        rcases List.mem_cons.1 hw with rfl | hw
        · intro d hd
          rcases List.mem_cons.1 hd with rfl | hd
          · simpa using hc
          · exact ih (by simp [hv]) d hd
        · exact ih (by simp [hv, hw])

def IsWord (w : List Char) : Prop := w ≠ [] ∧ ∀ c ∈ w, isBlank c = false

def words (cs : List Char) : List (List Char) := (pieces isBlank cs).filter (!·.isEmpty)

theorem isWord_of_mem_words {cs w : List Char} (hw : w ∈ words cs) : IsWord w := by
  obtain ⟨hmem, hne⟩ := List.mem_filter.1 hw
  exact ⟨by simpa using hne, mem_pieces hmem⟩

def unwords (ws : List (List Char)) : List Char := [' '].intercalate ws

end MergeNotes.Chars
