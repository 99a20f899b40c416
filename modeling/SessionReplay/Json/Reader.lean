import SessionReplay.Json.Fault

/-!
# Readers

A reader takes a value off the front of the bytes of a document and leaves the rest, which is
never longer than what it was given.

* `Reader` — a reader; readers form a monad;
* `Reader.peek`, `Reader.skip`, `Reader.fail` — the next byte after blanks, passing over it, and
  giving up;
* `Brackets` — the items between two brackets, with commas between them;
* `Reader.readAll` — a whole document.
-/

namespace SessionReplay.Json

/-- What reading the front of some bytes gives. -/
abbrev Outcome (α : Type) : Type := Except Fault (α × List UInt8)

/-- A reader of values at the front of bytes. -/
structure Reader (α : Type) where
  run : List UInt8 → Outcome α
  shrinks : ∀ {s a r}, run s = .ok (a, r) → r.length ≤ s.length

namespace Reader

variable {α β σ : Type}

instance : Monad Reader where
  pure a := ⟨fun s => .ok (a, s), by intro s b r h; cases h; exact Nat.le_refl _⟩
  bind p f :=
    { run := fun s =>
        match p.run s with
        | .ok (a, r) => (f a).run r
        | .error fault => .error fault
      shrinks := by
        intro s b r h
        match hp : p.run s with
        | .ok (a, r') =>
          simp only [hp] at h
          exact Nat.le_trans ((f a).shrinks h) (p.shrinks hp)
        | .error fault => simp [hp] at h }

/-- Giving up. -/
def fail (fault : Fault) : Reader α :=
  ⟨fun _ => .error fault, by intro s a r h; cases h⟩

/-- The white space of documents. -/
def isBlank (b : UInt8) : Bool :=
  b == ' '.toUInt8 || b == '\n'.toUInt8 || b == '\t'.toUInt8 || b == '\r'.toUInt8

/-- The bytes after white space. -/
def dropBlanks (s : List UInt8) : List UInt8 :=
  s.dropWhile isBlank

theorem dropBlanks_length (s : List UInt8) : (dropBlanks s).length ≤ s.length :=
  (List.dropWhile_sublist _).length_le

theorem length_of_dropBlanks {s rest : List UInt8} {b : UInt8} (h : dropBlanks s = b :: rest) :
    rest.length < s.length := by
  have := dropBlanks_length s
  rw [h] at this
  exact this

/-- The next byte after white space, which stays; none at the end. -/
def peek : Reader (Option UInt8) :=
  ⟨fun s => .ok ((dropBlanks s).head?, dropBlanks s), by
    intro s a r h; cases h; exact dropBlanks_length s⟩

/-- Passing over one byte. -/
def skip : Reader Unit :=
  ⟨fun s => .ok ((), s.tail), by intro s a r h; cases h; simp⟩

/-- One letter of a word. -/
def letter (wanted : UInt8) : Reader Unit :=
  ⟨fun s =>
    match s with
    | [] => .error .endInValue
    | b :: rest => if b = wanted then .ok ((), rest) else .error .noWord, by
    intro s a r h
    split at h
    · cases h
    · split at h
      · cases h; exact Nat.le_succ _
      · cases h⟩

/-- The remaining letters of a word. -/
def word : List UInt8 → Reader Unit
  | [] => pure ()
  | b :: letters => do
    letter b
    word letters

/-! ## Whole documents -/

/-- The value that a whole document writes. -/
def readAll (p : Reader α) (bytes : List UInt8) : Except Fault α :=
  match p.run bytes with
  | .error fault => .error fault
  | .ok (a, rest) => if dropBlanks rest = [] then .ok a else .error .trailingBytes

end Reader

/-! ## Items between brackets -/

/-- A kind of brackets: the closing sign, and the faults of a list that has no end and of one that
lacks a comma. -/
structure Brackets where
  closing : UInt8
  unclosed : Fault
  noComma : Fault

namespace Brackets

variable {σ : Type}

/-- Square brackets. -/
def square : Brackets := ⟨']'.toUInt8, .endInList, .noCommaInList⟩

/-- Curly brackets. -/
def curly : Brackets := ⟨'\x7d'.toUInt8, .endInObject, .noCommaInObject⟩

/-- Before the first item: whether there is one. A closing sign stays. -/
def hasFirst (b : Brackets) : Reader Bool :=
  ⟨fun s =>
    match Reader.dropBlanks s with
    | [] => .error b.unclosed
    | c :: rest => .ok (c != b.closing, c :: rest), by
    intro s a r h
    have := Reader.dropBlanks_length s
    split at h
    · cases h
    · next c rest hs => cases h; rw [hs] at this; exact this⟩

/-- After an item: whether a comma and another item follow. A closing sign stays. -/
def hasNext (b : Brackets) : Reader Bool :=
  ⟨fun s =>
    match Reader.dropBlanks s with
    | [] => .error b.unclosed
    | c :: rest =>
      if c = b.closing then .ok (false, c :: rest)
      else if c = ','.toUInt8 then
        match Reader.dropBlanks rest with
        | [] => .error .endInValue
        | d :: rest => if d = b.closing then .error .trailingComma else .ok (true, d :: rest)
      else .error b.noComma, by
    intro s a r h
    have hs := Reader.dropBlanks_length s
    split at h
    · cases h
    · next c rest hc =>
      rw [hc] at hs
      split at h
      · cases h; exact hs
      · split at h
        · have hr := Reader.dropBlanks_length rest
          split at h
          · cases h
          · next d rest' hd =>
            rw [hd] at hr
            split at h
            · cases h
            · cases h
              simp only [List.length_cons] at hs hr ⊢
              omega
        · cases h⟩

/-- A comma makes the rest shorter. -/
theorem hasNext_shrinks {b : Brackets} {s r : List UInt8} (h : b.hasNext.run s = .ok (true, r)) :
    r.length < s.length := by
  have hs := Reader.dropBlanks_length s
  simp only [hasNext] at h
  split at h
  · cases h
  · next c rest hc =>
    rw [hc] at hs
    split at h
    · cases h
    · split at h
      · have hr := Reader.dropBlanks_length rest
        split at h
        · cases h
        · next d rest' hd =>
          rw [hd] at hr
          split at h
          · cases h
          · cases h
            simp only [List.length_cons] at hs hr ⊢
            omega
      · cases h

/-- The items after the first one; `item` adds an item to what is read so far. -/
def more (b : Brackets) (item : σ → Reader σ) (state : σ) (s : List UInt8) : Outcome σ :=
  match _h : b.hasNext.run s with
  | .error fault => .error fault
  | .ok (false, r) => .ok (state, r)
  | .ok (true, r) =>
    match _hi : (item state).run r with
    | .error fault => .error fault
    | .ok (state, r') => more b item state r'
termination_by s.length
decreasing_by exact Nat.lt_of_le_of_lt ((item _).shrinks _hi) (hasNext_shrinks _h)

theorem more_length (b : Brackets) (item : σ → Reader σ) (state : σ) (s : List UInt8) {a r}
    (h : more b item state s = .ok (a, r)) : r.length ≤ s.length := by
  fun_induction more b item state s with
  | case1 => cases h
  | case2 state s r' hn => cases h; exact b.hasNext.shrinks hn
  | case3 => cases h
  | case4 state s r' hn state' r'' hi ih =>
    exact Nat.le_trans (ih h) (Nat.le_trans ((item _).shrinks hi) (b.hasNext.shrinks hn))

/-- All items up to the closing sign, which is passed over. -/
def items (b : Brackets) (item : σ → Reader σ) (state : σ) : Reader σ := do
  if ← b.hasFirst then
    let state ← item state
    let state ← ⟨more b item state, fun h => more_length b item state _ h⟩
    Reader.skip
    return state
  else
    Reader.skip
    return state

end Brackets

end SessionReplay.Json
