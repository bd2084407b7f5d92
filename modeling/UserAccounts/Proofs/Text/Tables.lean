/-
# What is found in tables

The sums of gaps ascend, so searching by halves finds how many of them are not past a
number (`rank_eq_length_takeWhile`), and what a table of steps has at a character is what
one finds by going along the steps from the first (`StepTable.get?_ofSteps`).

A table is written as lines of text. What is in it can be computed once the lines are
spelled out as characters (`Spelled`); as far as the characters lie that are asked for,
going along the steps once is enough for all of them (`Spelled.get?_holds`).

Key definitions: `sumsFrom`, `valueAlong`, `Spelled`, `holdsAlong`.
Key theorems: `rank_eq_length_takeWhile`, `StepTable.get?_ofSteps`, `Spelled.flatMap_words`,
`Spelled.get?_holds`.
-/
import UserAccounts.Text.RangeTable

namespace UserAccounts.Text

/-! ### Sums -/

/-- The sums of gaps, the first of them counted from `place`. -/
def sumsFrom (place : Nat) : List Nat → List Nat
  | [] => []
  | gap :: gaps => (place + gap) :: sumsFrom (place + gap) gaps

theorem toList_sums (gaps : List Nat) : (sums gaps).toList = sumsFrom 0 gaps := by
  have hfold : ∀ (gaps : List Nat) (found : Array Nat) (place : Nat),
      (gaps.foldl (fun (acc : Array Nat × Nat) gap => (acc.1.push (acc.2 + gap), acc.2 + gap))
        (found, place)).1.toList = found.toList ++ sumsFrom place gaps := by
    intro gaps
    induction gaps with
    | nil => intro found place; simp [sumsFrom]
    | cons gap gaps ih =>
      intro found place
      rw [List.foldl_cons, ih, Array.toList_push, sumsFrom, List.append_assoc]
      rfl
  exact (hfold gaps #[] 0).trans (List.nil_append _)

theorem le_of_mem_sumsFrom {gaps : List Nat} {place n : Nat} (h : n ∈ sumsFrom place gaps) :
    place ≤ n := by
  induction gaps generalizing place with
  | nil => cases h
  | cons gap gaps ih =>
    rcases List.mem_cons.mp h with rfl | h
    · exact Nat.le_add_right place gap
    · exact Nat.le_trans (Nat.le_add_right place gap) (ih h)

theorem pairwise_sumsFrom (place : Nat) (gaps : List Nat) :
    (sumsFrom place gaps).Pairwise (· ≤ ·) := by
  induction gaps generalizing place with
  | nil => exact .nil
  | cons gap gaps ih => exact .cons (fun _ => le_of_mem_sumsFrom) (ih _)

/-! ### Searching by halves -/

section

variable {places : Array Nat} {n : Nat}

/-- The search is at an end, or goes on in one half. -/
theorem rankBetween_spec (hsorted : places.toList.Pairwise (· ≤ ·)) {low high : Nat}
    (hle : low ≤ high) (hsize : high ≤ places.size)
    (hbelow : ∀ i (h : i < places.size), i < low → places[i] ≤ n)
    (habove : ∀ i (h : i < places.size), high ≤ i → n < places[i]) :
    rankBetween places n low high ≤ places.size ∧
      (∀ i (h : i < places.size), i < rankBetween places n low high → places[i] ≤ n) ∧
      ∀ i (h : i < places.size), rankBetween places n low high ≤ i → n < places[i] := by
  have hmono : ∀ i j (hi : i < places.size) (hj : j < places.size), i ≤ j →
      places[i] ≤ places[j] := by
    intro i j hi hj hij
    rcases Nat.lt_or_eq_of_le hij with hlt | rfl
    · exact List.pairwise_iff_getElem.mp hsorted i j hi hj hlt
    · exact Nat.le_refl _
  fun_induction rankBetween places n low high with
  | case1 low high hlt middle hmiddle ih =>
    have hin : middle < places.size := by omega
    rw [Array.getD_eq_getD_getElem?, Array.getElem?_eq_getElem hin, Option.getD_some] at hmiddle
    refine ih (by omega) hsize (fun i hi hlow => ?_) habove
    exact Nat.le_trans (hmono i middle hi hin (by omega)) hmiddle
  | case2 low high hlt middle hmiddle ih =>
    have hin : middle < places.size := by omega
    rw [Array.getD_eq_getD_getElem?, Array.getElem?_eq_getElem hin, Option.getD_some] at hmiddle
    refine ih (by omega) (by omega) hbelow (fun i hi hhigh => ?_)
    exact Nat.lt_of_lt_of_le (Nat.lt_of_not_le hmiddle) (hmono middle i hin hi hhigh)
  | case3 low high hge =>
    obtain rfl : low = high := by omega
    exact ⟨hsize, hbelow, habove⟩

theorem length_takeWhile {α : Type} {p : α → Bool} {l : List α} {k : Nat} (hk : k ≤ l.length)
    (hbefore : ∀ i (h : i < l.length), i < k → p l[i] = true)
    (hbehind : ∀ i (h : i < l.length), k ≤ i → p l[i] = false) : (l.takeWhile p).length = k := by
  induction l generalizing k with
  | nil => exact (Nat.le_zero.mp hk).symm
  | cons a l ih =>
    cases k with
    | zero =>
      have hstop : p a = false := hbehind 0 (Nat.zero_lt_succ _) (Nat.le_refl _)
      rw [List.takeWhile_cons, hstop]
      rfl
    | succ k =>
      have hon : p a = true := hbefore 0 (Nat.zero_lt_succ _) (Nat.zero_lt_succ _)
      rw [List.takeWhile_cons, hon]
      refine congrArg Nat.succ (ih (Nat.le_of_succ_le_succ hk) ?_ ?_)
      · exact fun i h hlt => hbefore (i + 1) (Nat.succ_lt_succ h) (Nat.succ_lt_succ hlt)
      · exact fun i h hle => hbehind (i + 1) (Nat.succ_lt_succ h) (Nat.succ_le_succ hle)

/-- **Searching by halves counts the places that are not past a number.** -/
theorem rank_eq_length_takeWhile (hsorted : places.toList.Pairwise (· ≤ ·)) :
    rank places n = (places.toList.takeWhile (· ≤ n)).length := by
  obtain ⟨hsize, hbelow, habove⟩ := rankBetween_spec (n := n) hsorted (Nat.zero_le _)
    (Nat.le_refl _) (fun _ _ h => absurd h (Nat.not_lt_zero _))
    (fun _ h hge => absurd h (Nat.not_lt_of_le hge))
  refine (length_takeWhile hsize (fun i h hlt => ?_) (fun i h hle => ?_)).symm
  · exact decide_eq_true (hbelow i h hlt)
  · exact decide_eq_false (Nat.not_le_of_lt (habove i h hle))

end

/-! ### Going along steps -/

section

variable {α : Type}

/-- What holds at a number, going along steps from a place on. -/
def valueAlong (n place : Nat) (value : Option α) : List (Nat × α) → Option α
  | [] => value
  | (gap, next) :: steps =>
    if place + gap ≤ n then valueAlong n (place + gap) (some next) steps else value

/-- What one comes to is the value of the last step that is not past the number. -/
theorem valueAlong_eq (n place : Nat) (value : Option α) (steps : List (Nat × α)) :
    valueAlong n place value steps =
      match ((sumsFrom place (steps.map (·.1))).takeWhile (· ≤ n)).length with
      | 0 => value
      | k + 1 => (steps.map (·.2))[k]? := by
  induction steps generalizing place value with
  | nil => rfl
  | cons step steps ih =>
    obtain ⟨gap, next⟩ := step
    rw [valueAlong, List.map_cons, sumsFrom, List.takeWhile_cons]
    by_cases hle : place + gap ≤ n
    · rw [if_pos hle, if_pos (decide_eq_true hle), ih, List.length_cons, List.map_cons]
      cases ((sumsFrom (place + gap) (steps.map (·.1))).takeWhile (· ≤ n)).length <;> rfl
    · rw [if_neg hle, if_neg (by simpa using hle)]
      rfl

/-- **What a table of steps has at a character.** -/
theorem StepTable.get?_ofSteps (steps : List (Nat × α)) (c : Char) :
    (StepTable.ofSteps steps).get? c = valueAlong c.toNat 0 none steps := by
  have hsorted : (sums (steps.map (·.1))).toList.Pairwise (· ≤ ·) := by
    rw [toList_sums]
    exact pairwise_sumsFrom 0 _
  rw [valueAlong_eq]
  unfold StepTable.get? StepTable.ofSteps
  simp only
  rw [rank_eq_length_takeWhile hsorted, toList_sums]
  cases ((sumsFrom 0 (steps.map (·.1))).takeWhile (· ≤ c.toNat)).length with
  | zero => rfl
  | succ k => simp only [List.getElem?_toArray]

/-- Going along the steps once, the property is found to hold of each point and the value there. The
points ascend; the steps have to go on past the last of them. -/
def holdsAlong (p : Nat → Option α → Bool) (place : Nat) (value : Option α) :
    List (Nat × α) → List Nat → Bool
  | [], points => points.isEmpty
  | (gap, next) :: steps, points =>
    points.isEmpty ||
      ((points.takeWhile (· < place + gap)).all (p · value) &&
        holdsAlong p (place + gap) (some next) steps (points.dropWhile (· < place + gap)))

theorem le_of_mem_dropWhile {points : List Nat} (hsorted : points.Pairwise (· ≤ ·)) {bound n : Nat}
    (hn : n ∈ points.dropWhile (· < bound)) : bound ≤ n := by
  induction points with
  | nil => cases hn
  | cons point points ih =>
    obtain ⟨hle, hrest⟩ := List.pairwise_cons.mp hsorted
    by_cases hlt : point < bound
    · rw [List.dropWhile_cons_of_pos (by simpa using hlt)] at hn
      exact ih hrest hn
    · have hpoint : bound ≤ point := Nat.le_of_not_lt hlt
      rw [List.dropWhile_cons_of_neg (by simpa using hlt)] at hn
      rcases List.mem_cons.mp hn with rfl | hn
      · exact hpoint
      · exact Nat.le_trans hpoint (hle n hn)

/-- What is found along the first steps holds, whatever steps follow. -/
theorem valueAlong_of_holdsAlong {p : Nat → Option α → Bool} {place : Nat} {value : Option α}
    {steps rest : List (Nat × α)} {points : List Nat} (hsorted : points.Pairwise (· ≤ ·))
    (h : holdsAlong p place value steps points = true) :
    ∀ n ∈ points, p n (valueAlong n place value (steps ++ rest)) = true := by
  induction steps generalizing place value points with
  | nil =>
    rw [holdsAlong, List.isEmpty_iff] at h
    rw [h]
    nofun
  | cons step steps ih =>
    obtain ⟨gap, next⟩ := step
    rw [holdsAlong, Bool.or_eq_true, List.isEmpty_iff, Bool.and_eq_true, List.all_eq_true] at h
    rcases h with rfl | ⟨hbefore, hbehind⟩
    · nofun
    · intro n hn
      rw [← List.takeWhile_append_dropWhile (p := (· < place + gap)) (l := points),
        List.mem_append] at hn
      rw [List.cons_append, valueAlong]
      rcases hn with hn | hn
      · have hlt : n < place + gap := by simpa using List.all_eq_true.mp List.all_takeWhile n hn
        rw [if_neg (Nat.not_le_of_lt hlt)]
        exact hbefore n hn
      · rw [if_pos (le_of_mem_dropWhile hsorted hn)]
        exact ih (hsorted.sublist (List.dropWhile_sublist _)) hbehind n hn

end

/-! ### Lines -/

/-- The words of a line that is spelled out. -/
def lineWords (line : List Char) : List (List Char) :=
  (line.splitOnP fun c => c == ' ' || c == '\n').filter fun word => !word.isEmpty

theorem words_ofList (line : List Char) : words (String.ofList line) = lineWords line := by
  unfold words lineWords
  rw [String.toList_ofList]

/-- The texts are these lines, spelled out, and the rest. -/
inductive Spelled (rest : List String) : List String → List (List Char) → Prop where
  | nil : Spelled rest rest []
  | cons {line : List Char} {texts : List String} {lines : List (List Char)}
      (h : Spelled rest texts lines) : Spelled rest (String.ofList line :: texts) (line :: lines)

section

variable {rest texts : List String} {lines : List (List Char)}

theorem Spelled.flatMap_words (h : Spelled rest texts lines) :
    texts.flatMap words = lines.flatMap lineWords ++ rest.flatMap words := by
  induction h with
  | nil => rfl
  | cons h ih =>
    rw [List.flatMap_cons, List.flatMap_cons, ih, words_ofList, List.append_assoc]

/-- **What is found along the first lines of a table holds of the table.** -/
theorem Spelled.get?_holds {α : Type} {read : List Char → Nat × α} {p : Nat → Option α → Bool}
    {points : List Nat} (h : Spelled rest texts lines) (hsorted : points.Pairwise (· ≤ ·))
    (hfound : holdsAlong p 0 none ((lines.flatMap lineWords).map read) points = true) {c : Char}
    (hc : c.toNat ∈ points) :
    p c.toNat ((StepTable.ofSteps ((texts.flatMap words).map read)).get? c) = true := by
  rw [StepTable.get?_ofSteps, h.flatMap_words, List.map_append]
  exact valueAlong_of_holdsAlong hsorted hfound _ hc

end

end UserAccounts.Text
