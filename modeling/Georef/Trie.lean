/-!
# Tries

A finite map from paths to values. A path goes left or right at every step, so a value is found in
as many steps as its path has, however many values there are.

A number has the path of its digits in base two, lowest digit first; on numbers below
`Trie.bound width` these paths are different. A text has the paths of its characters, one after the
other.

* `Trie.get?`, `Trie.put`: looking up and entering; `get?_put` says what is found after an entry
  was made.
* `Trie.path`, `Trie.textPath`: the paths of a number and of a text, with `path_injective` and
  `textPath_inj`.
-/

namespace Georef

/-- Values at the ends of paths. -/
inductive Trie (ν : Type) where
  | empty
  /-- The value at the end of the path to here, and what lies to the left and to the right. -/
  | node (value : Option ν) (left right : Trie ν)
  deriving DecidableEq, Repr

namespace Trie

variable {ν : Type}

/-- The value here. -/
def value? : Trie ν → Option ν
  | empty => none
  | node value _ _ => value

/-- What lies to the left. -/
def left : Trie ν → Trie ν
  | empty => empty
  | node _ left _ => left

/-- What lies to the right. -/
def right : Trie ν → Trie ν
  | empty => empty
  | node _ _ right => right

/-- The value at the end of a path, whose steps are true to the right. -/
def get? : (path : List Bool) → Trie ν → Option ν
  | [], trie => trie.value?
  | false :: path, trie => get? path trie.left
  | true :: path, trie => get? path trie.right

/-- The trie with a value entered at the end of a path, in the place of any earlier one. -/
def put (value : ν) : (path : List Bool) → Trie ν → Trie ν
  | [], trie => node (some value) trie.left trie.right
  | false :: path, trie => node trie.value? (put value path trie.left) trie.right
  | true :: path, trie => node trie.value? trie.left (put value path trie.right)

@[simp]
theorem get?_empty (path : List Bool) : (empty : Trie ν).get? path = none := by
  induction path with
  | nil => rfl
  | cons step path ih => cases step <;> simpa [get?, left, right] using ih

/-- What was put at the end of a path is found there, and nothing else changes. -/
theorem get?_put (value : ν) (path other : List Bool) (trie : Trie ν) :
    (trie.put value path).get? other = if other = path then some value else trie.get? other := by
  induction path generalizing other trie with
  | nil => rcases other with _ | ⟨_ | _, other⟩ <;> simp [put, get?, value?, left, right]
  | cons step path ih =>
    rcases other with _ | ⟨_ | _, other⟩ <;> cases step <;>
      simp [put, get?, value?, left, right, ih]

/-! ## Paths of numbers -/

/-- The path of a number: its lowest `width` digits in base two. -/
def path : (width number : Nat) → List Bool
  | 0, _ => []
  | width + 1, number => (number % 2 == 1) :: path width (number / 2)

@[simp]
theorem length_path (width number : Nat) : (path width number).length = width := by
  induction width generalizing number with
  | zero => rfl
  | succ width ih => simp [path, ih]

/-- The least number of more than `width` digits in base two. -/
def bound : (width : Nat) → Nat
  | 0 => 1
  | width + 1 => 2 * bound width

/-- Numbers of at most `width` digits have different paths. -/
theorem path_injective {width a b : Nat} (ha : a < bound width) (hb : b < bound width)
    (h : path width a = path width b) : a = b := by
  induction width generalizing a b with
  | zero => simp only [bound] at ha hb; omega
  | succ width ih =>
    simp only [bound] at ha hb
    obtain ⟨hstep, hrest⟩ := List.cons.inj h
    -- the first step is the lowest digit, the others are those of the half
    have hhalf : a / 2 = b / 2 := ih (by omega) (by omega) hrest
    have hdigit : a % 2 = b % 2 := by
      rw [Bool.eq_iff_iff, beq_iff_eq, beq_iff_eq] at hstep
      omega
    omega

/-! ## Paths of texts -/

/-- The path of characters. -/
def charsPath (chars : List Char) : List Bool :=
  chars.flatMap fun c => path 21 c.toNat

/-- The path of a text. -/
def textPath (text : String) : List Bool :=
  charsPath text.toList

theorem toNat_lt_bound (c : Char) : c.toNat < bound 21 := by
  have h : bound 21 = 0x200000 := by decide
  have hc : c.toNat < 0x110000 := by
    rcases c.valid with hlow | ⟨-, hhigh⟩
    · exact Nat.lt_trans hlow (by decide)
    · exact hhigh
  omega

theorem length_charsPath_cons (c : Char) (chars : List Char) :
    (charsPath (c :: chars)).length = 21 + (charsPath chars).length := by
  simp [charsPath]

theorem charsPath_injective {a b : List Char} (h : charsPath a = charsPath b) : a = b := by
  induction a generalizing b with
  | nil =>
    cases b with
    | nil => rfl
    | cons d b =>
      have hlength := congrArg List.length h
      rw [length_charsPath_cons, charsPath, List.flatMap_nil, List.length_nil] at hlength
      omega
  | cons c a ih =>
    cases b with
    | nil =>
      have hlength := congrArg List.length h
      rw [length_charsPath_cons, charsPath, charsPath, List.flatMap_nil, List.length_nil] at hlength
      omega
    | cons d b =>
      simp only [charsPath, List.flatMap_cons] at h
      -- all characters have paths of one length, so the first ones can be cut off
      obtain ⟨hfirst, hrest⟩ := List.append_inj h (by simp)
      have hc := path_injective (toNat_lt_bound c) (toNat_lt_bound d) hfirst
      rw [Char.toNat_inj.1 hc, ih hrest]

/-- Different texts have different paths. -/
theorem textPath_inj {a b : String} : textPath a = textPath b ↔ a = b :=
  ⟨fun h => String.toList_inj.1 (charsPath_injective h), fun h => h ▸ rfl⟩

end Trie

end Georef
