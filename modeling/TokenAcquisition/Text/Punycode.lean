/-!
Punycode: text over all characters as ASCII letters, digits and hyphens.  The ASCII characters
come first; the others follow as the distances between their insertions, in ascending order.
-/

namespace TokenAcquisition.Text.Punycode

/-- The digits of a distance below this value end it at the given place. -/
def threshold (bias place : Nat) : Nat :=
  min 26 (max 1 (place - bias))

theorem threshold_pos (bias place : Nat) : 0 < threshold bias place := by
  unfold threshold
  omega

private def damp (delta place : Nat) : Nat :=
  if delta > 455 then damp (delta / 35) (place + 36)
  else place + 36 * delta / (delta + 38)
termination_by delta
decreasing_by omega

/-- The bias after an insertion into a text of `count` characters, the new one included. -/
def adapt (delta count : Nat) (isFirst : Bool) : Nat :=
  let scaled := if isFirst then delta / 700 else delta / 2
  damp (scaled + scaled / count) 0

def digitChar (digit : Nat) : Char :=
  if digit < 26 then Char.ofNat (97 + digit) else Char.ofNat (22 + digit)

def digitValue? (c : Char) : Option Nat :=
  let n := c.toNat
  if 97 ≤ n ∧ n ≤ 122 then some (n - 97)
  else if 65 ≤ n ∧ n ≤ 90 then some (n - 65)
  else if 48 ≤ n ∧ n ≤ 57 then some (n - 22)
  else none

/-- The digits of a distance, starting at a place. -/
def distance (bias place q : Nat) : List Char :=
  let t := threshold bias place
  if q < t then [digitChar q]
  else digitChar (t + (q - t) % (36 - t)) :: distance bias (place + 36) ((q - t) / (36 - t))
termination_by q
decreasing_by
  have positive := threshold_pos bias place
  have smaller : (q - threshold bias place) / (36 - threshold bias place) ≤
      q - threshold bias place := Nat.div_le_self _ _
  omega

private structure Progress where
  point : Nat := 128
  delta : Nat := 0
  handled : Nat
  bias : Nat := 72
  isFirst : Bool := true
  /-- The digits so far, last group first. -/
  groups : List (List Char) := []

private def visit (point : Nat) (p : Progress) (c : Nat) : Progress :=
  if c < point then { p with delta := p.delta + 1 }
  else if c = point then
    { p with
      delta := 0
      handled := p.handled + 1
      bias := adapt p.delta (p.handled + 1) p.isFirst
      isFirst := false
      groups := distance p.bias 36 p.delta :: p.groups }
  else p

private def insertPoint (codes : List Nat) (p : Progress) (point : Nat) : Progress :=
  let moved := { p with delta := p.delta + (point - p.point) * (p.handled + 1) }
  let done := codes.foldl (visit point) moved
  { done with delta := done.delta + 1, point := point + 1 }

private def insertSorted (n : Nat) : List Nat → List Nat
  | [] => [n]
  | m :: rest =>
      if n < m then n :: m :: rest
      else if n = m then m :: rest
      else m :: insertSorted n rest

def encode (cs : List Char) : List Char :=
  let codes := cs.map Char.toNat
  let basic := cs.filter fun c => c.toNat < 128
  let points := (codes.filter fun n => 128 ≤ n).foldl (fun sorted n => insertSorted n sorted) []
  let done := points.foldl (insertPoint codes) { handled := basic.length }
  basic ++ (if basic.isEmpty then [] else ['-']) ++ done.groups.reverse.flatten

/-- A distance added to `sum`, and what follows it. -/
private def readDistance? (bias : Nat) (sum weight place : Nat) :
    List Char → Option (Nat × List Char)
  | [] => none
  | c :: rest => do
      let digit ← digitValue? c
      let t := threshold bias place
      let total := sum + digit * weight
      if total ≥ UInt32.size then none
      else if digit < t then some (total, rest)
      else readDistance? bias total (weight * (36 - t)) (place + 36) rest

private theorem readDistance?_shorter {bias sum weight place total : Nat} {text rest : List Char}
    (found : readDistance? bias sum weight place text = some (total, rest)) :
    rest.length < text.length := by
  induction text generalizing sum weight place with
  | nil => simp [readDistance?] at found
  | cons c tail ih =>
      unfold readDistance? at found
      cases h : digitValue? c with
      | none => simp [h] at found
      | some digit =>
          simp only [h, Option.bind_eq_bind, Option.bind_some] at found
          split at found
          · simp at found
          · split at found
            · simp_all
            · exact Nat.lt_succ_of_lt (ih found)

private def insertions? (text : List Char) (point index bias : Nat) (isFirst : Bool)
    (built : List Char) : Option (List Char) :=
  if text.isEmpty then some built
  else
    match _ : readDistance? bias index 1 36 text with
    | none => none
    | some (total, rest) =>
        let count := built.length + 1
        let code := point + total / count
        let place := total % count
        if code ≥ 0x110000 ∨ (0xD800 ≤ code ∧ code ≤ 0xDFFF) then none
        else
          insertions? rest code (place + 1) (adapt (total - index) count isFirst) false
            (built.take place ++ Char.ofNat code :: built.drop place)
termination_by text.length
decreasing_by exact readDistance?_shorter ‹_›

/-- The text that an ASCII spelling stands for.  What stands before the last hyphen is not empty. -/
def decode? (text : List Char) : Option (List Char) :=
  let tail := (text.reverse.takeWhile (· ≠ '-')).reverse
  if tail.length = text.length then insertions? tail 128 0 72 true []
  else
    let basic := text.take (text.length - tail.length - 1)
    if !basic.isEmpty && basic.all (fun c => c.toNat < 128) then
      insertions? tail 128 0 72 true basic
    else none

/-! ### The characters of a spelling -/

theorem mem_distance {bias place q : Nat} {c : Char} (member : c ∈ distance bias place q) :
    ∃ digit < 36, c = digitChar digit := by
  induction place, q using distance.induct bias with
  | case1 place q t small =>
      rw [distance, if_pos small] at member
      have bound : t ≤ 26 := Nat.min_le_left _ _
      exact ⟨q, by omega, List.mem_singleton.mp member⟩
  | case2 place q t large inductionHypothesis =>
      rw [distance, if_neg large] at member
      have bound : t ≤ 26 := Nat.min_le_left _ _
      have below : (q - t) % (36 - t) < 36 - t := Nat.mod_lt _ (by omega)
      rcases List.mem_cons.mp member with first | later
      · exact ⟨t + (q - t) % (36 - t), by omega, first⟩
      · exact inductionHypothesis later

private def Progress.IsSpelled (p : Progress) : Prop :=
  ∀ group ∈ p.groups, ∀ c ∈ group, ∃ digit < 36, c = digitChar digit

private theorem Progress.IsSpelled.visit {p : Progress} (spelled : p.IsSpelled) (point c : Nat) :
    (visit point p c).IsSpelled := by
  unfold Punycode.visit
  split
  next => exact spelled
  next =>
    split
    next => exact List.forall_mem_cons.mpr ⟨fun _ => mem_distance, spelled⟩
    next => exact spelled

private theorem Progress.IsSpelled.insertPoint {p : Progress} (spelled : p.IsSpelled)
    (codes : List Nat) (point : Nat) : (insertPoint codes p point).IsSpelled := by
  have visits (codes : List Nat) {p : Progress} (spelled : p.IsSpelled) :
      (codes.foldl (Punycode.visit point) p).IsSpelled := by
    induction codes generalizing p with
    | nil => exact spelled
    | cons code codes inductionHypothesis => exact inductionHypothesis (spelled.visit point code)
  exact visits codes spelled

/-- A spelling is made of characters of the text, digits and a hyphen. -/
theorem mem_encode {cs : List Char} {c : Char} (member : c ∈ encode cs) :
    c ∈ cs ∨ c = '-' ∨ ∃ digit < 36, c = digitChar digit := by
  have inserts (points : List Nat) {p : Progress} (spelled : p.IsSpelled) :
      (points.foldl (insertPoint (cs.map Char.toNat)) p).IsSpelled := by
    induction points generalizing p with
    | nil => exact spelled
    | cons point points inductionHypothesis =>
        exact inductionHypothesis (spelled.insertPoint _ point)
  have fresh (handled : Nat) : Progress.IsSpelled { handled } := nofun
  unfold encode at member
  rcases List.mem_append.mp member with before | digit
  · rcases List.mem_append.mp before with basic | hyphen
    · exact .inl (List.mem_filter.mp basic).1
    · split at hyphen
      next => cases hyphen
      next => exact .inr (.inl (List.mem_singleton.mp hyphen))
  · obtain ⟨group, among, inside⟩ := List.mem_flatten.mp digit
    exact .inr (.inr (inserts _ (fresh _) group (List.mem_reverse.mp among) c inside))

private theorem exists_digits {bias sum weight place total : Nat} {text rest : List Char}
    (found : readDistance? bias sum weight place text = some (total, rest)) :
    ∃ digits, text = digits ++ rest ∧ ∀ c ∈ digits, (digitValue? c).isSome = true := by
  induction text generalizing sum weight place with
  | nil => cases found
  | cons c text inductionHypothesis =>
      unfold readDistance? at found
      cases value : digitValue? c with
      | none => simp [value] at found
      | some digit =>
          simp only [value, Option.bind_eq_bind, Option.bind_some] at found
          split at found
          next => cases found
          next =>
            split at found
            next =>
              cases found
              exact ⟨[c], rfl, by simp [value]⟩
            next =>
              obtain ⟨digits, rfl, all⟩ := inductionHypothesis found
              exact ⟨c :: digits, rfl, List.forall_mem_cons.mpr ⟨by simp [value], all⟩⟩

private theorem insertions?_cases {text built letters : List Char} {point index bias : Nat}
    {isFirst : Bool} (read : insertions? text point index bias isFirst built = some letters) :
    (∀ c ∈ text, (digitValue? c).isSome = true) ∧ built ⊆ letters := by
  induction text, point, index, bias, isFirst, built using insertions?.induct with
  | case1 text point index bias isFirst built ends =>
      rw [insertions?, if_pos ends] at read
      obtain rfl := Option.some.inj read
      rw [List.isEmpty_iff.mp ends]
      exact ⟨nofun, fun _ inside => inside⟩
  | case2 text point index bias isFirst built ends found =>
      rw [insertions?, if_neg ends] at read
      split at read
      next => cases read
      next => simp_all
  | case3 text point index bias isFirst built ends total rest found count code outside =>
      rw [insertions?, if_neg ends] at read
      split at read
      next => cases read
      next total' rest' again =>
        obtain ⟨rfl, rfl⟩ := Prod.mk.inj (Option.some.inj (again.symm.trans found))
        rw [if_pos outside] at read
        cases read
  | case4 text point index bias isFirst built ends total rest found count code place inside
      inductionHypothesis =>
      rw [insertions?, if_neg ends] at read
      split at read
      next => cases read
      next total' rest' again =>
        obtain ⟨rfl, rfl⟩ := Prod.mk.inj (Option.some.inj (again.symm.trans found))
        rw [if_neg inside] at read
        obtain ⟨digits, rfl, all⟩ := exists_digits found
        obtain ⟨others, kept⟩ := inductionHypothesis read
        refine ⟨fun c member => ?_, fun c member => kept ?_⟩
        · rcases List.mem_append.mp member with first | later
          · exact all c first
          · exact others c later
        · rw [← List.take_append_drop place built] at member
          rcases List.mem_append.mp member with before | after
          · exact List.mem_append_left _ before
          · exact List.mem_append_right _ (List.mem_cons_of_mem _ after)

private theorem hyphen_cases (text : List Char) :
    text = (text.reverse.takeWhile (· ≠ '-')).reverse ∨
      ∃ basic, text = basic ++ '-' :: (text.reverse.takeWhile (· ≠ '-')).reverse := by
  have parts : text.reverse.takeWhile (· ≠ '-') ++ text.reverse.dropWhile (· ≠ '-') =
      text.reverse := List.takeWhile_append_dropWhile
  have reversed := congrArg List.reverse parts
  rw [List.reverse_reverse, List.reverse_append] at reversed
  have stop := List.head?_dropWhile_not (· ≠ '-') text.reverse
  cases same : text.reverse.dropWhile (· ≠ '-') with
  | nil =>
      rw [same] at reversed
      exact .inl reversed.symm
  | cons hyphen others =>
      rw [same] at reversed stop
      obtain rfl : hyphen = '-' := by simpa using stop
      rw [List.reverse_cons, List.append_assoc] at reversed
      exact .inr ⟨others.reverse, reversed.symm⟩

/-- So is every text that is read as one. -/
theorem mem_of_decode? {text letters : List Char} (read : decode? text = some letters) {c : Char}
    (member : c ∈ text) : c ∈ letters ∨ c = '-' ∨ (digitValue? c).isSome = true := by
  have cases := hyphen_cases text
  unfold decode? at read
  dsimp only at read
  generalize (text.reverse.takeWhile (· ≠ '-')).reverse = tail at cases read
  rcases cases with rfl | ⟨basic, rfl⟩
  · rw [if_pos rfl] at read
    exact .inr (.inr ((insertions?_cases read).1 c member))
  · have size : (basic ++ '-' :: tail).length - tail.length - 1 = basic.length := by
      simp only [List.length_append, List.length_cons]
      omega
    rw [if_neg (by simp only [List.length_append, List.length_cons]; omega), size,
      List.take_left] at read
    split at read
    next =>
      obtain ⟨digits, kept⟩ := insertions?_cases read
      rcases List.mem_append.mp member with first | later
      · exact .inl (kept first)
      · rcases List.mem_cons.mp later with hyphen | digit
        · exact .inr (.inl hyphen)
        · exact .inr (.inr (digits c digit))
    next => cases read

end TokenAcquisition.Text.Punycode
