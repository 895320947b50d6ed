/-! Finding and erasing fixed phrases. Erasure runs once from left to right, so what an erased
phrase leaves behind is not examined again. -/

namespace LootSieve.Text

def occursIn (phrase : List Char) : List Char → Bool
  | [] => phrase.isEmpty
  | char :: rest => phrase.isPrefixOf (char :: rest) || occursIn phrase rest

theorem occursIn_iff (phrase text : List Char) :
    occursIn phrase text = true ↔ phrase <:+: text := by
  induction text with
  | nil => simp [occursIn, List.infix_nil]
  | cons char rest inductive_step =>
    simp only [occursIn, Bool.or_eq_true, List.isPrefixOf_iff_prefix, inductive_step]
    exact List.infix_cons_iff.symm

/-- What follows `phrase` at the start of a text. -/
def afterPhrase? : List Char → List Char → Option (List Char)
  | [], text => some text
  | _ :: _, [] => none
  | expected :: phrase, char :: rest => if expected = char then afterPhrase? phrase rest else none

theorem afterPhrase?_eq_some_iff (phrase text rest : List Char) :
    afterPhrase? phrase text = some rest ↔ text = phrase ++ rest := by
  induction phrase generalizing text with
  | nil => simp [afterPhrase?]
  | cons expected phrase inductive_step =>
    cases text with
    | nil => simp [afterPhrase?]
    | cons char tail =>
      by_cases same : expected = char
      · subst same
        simp [afterPhrase?, inductive_step]
      · simp [afterPhrase?, same, Ne.symm same]

/-- What stands before the first occurrence of `phrase`, or the whole text. -/
def beforePhrase (phrase : List Char) : List Char → List Char
  | [] => []
  | char :: rest =>
    if phrase.isPrefixOf (char :: rest) then [] else char :: beforePhrase phrase rest

/-- Erases every match from left to right. `width` measures the match at the head of a text, zero
for none; `pending` characters of the current match are still to be dropped. -/
def eraseMatches (width : List Char → Nat) : Nat → List Char → List Char
  | _, [] => []
  | pending + 1, _ :: rest => eraseMatches width pending rest
  | 0, char :: rest =>
    match width (char :: rest) with
    | 0 => char :: eraseMatches width 0 rest
    | more + 1 => eraseMatches width more rest

def phraseWidth (phrase text : List Char) : Nat :=
  if phrase.isPrefixOf text then phrase.length else 0

def erase (phrase text : List Char) : List Char := eraseMatches (phraseWidth phrase) 0 text

/-- The first result from left to right over the tails of a text. -/
def leftmost {α : Type} (matchAt : List Char → Option α) : List Char → Option α
  | [] => matchAt []
  | char :: rest =>
    match matchAt (char :: rest) with
    | some found => some found
    | none => leftmost matchAt rest

/-- Every way to cut a text after a nonempty stretch of allowed characters, shortest first. -/
def cuts (allowed : Char → Bool) : List Char → List (List Char × List Char)
  | [] => []
  | char :: rest =>
    if allowed char then
      ([char], rest) :: (cuts allowed rest).map fun (taken, left) => (char :: taken, left)
    else []

theorem append_of_mem_cuts {allowed : Char → Bool} {text taken left : List Char}
    (member : (taken, left) ∈ cuts allowed text) :
    taken ++ left = text ∧ taken ≠ [] ∧ ∀ char ∈ taken, allowed char = true := by
  induction text generalizing taken with
  | nil => simp [cuts] at member
  | cons char rest inductive_step =>
    by_cases fine : allowed char = true
    · simp only [cuts, fine, if_true, List.mem_cons, List.mem_map, Prod.mk.injEq,
        Prod.exists] at member
      rcases member with ⟨rfl, rfl⟩ | ⟨shorter, _, inside, rfl, rfl⟩
      · simp [fine]
      · obtain ⟨joined, _, all⟩ := inductive_step inside
        simp [joined, fine]
        exact all
    · simp [cuts, fine] at member

/-- What is left after each nonempty stretch of allowed characters, shortest stretch first. -/
def endings (allowed : Char → Bool) : List Char → List (List Char)
  | [] => []
  | char :: rest => if allowed char then rest :: endings allowed rest else []

theorem endings_eq_map_cuts (allowed : Char → Bool) (text : List Char) :
    endings allowed text = (cuts allowed text).map Prod.snd := by
  induction text with
  | nil => rfl
  | cons char rest inductive_step =>
    by_cases fine : allowed char = true
    · simp [endings, cuts, fine, inductive_step, Function.comp_def]
    · simp [endings, cuts, fine]

end LootSieve.Text
