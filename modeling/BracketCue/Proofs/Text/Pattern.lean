import BracketCue.Text.Pattern

/-!
# What a pattern matches

A way to match a pattern cuts the text into the parts of the pattern. The search finds a way if
there is one, though it tries only the longest runs first and gives back what they took. Which way
it finds is of no matter where there is only one result to find.

* `Matches.of_match?`: what is found is a way to match.
* `Matches.isSome_match?`: if there is a way to match, one is found.
* `match?_eq_some_iff`: where all ways to match agree on the groups, these are found.
-/
namespace BracketCue.Text.Pattern

/-- A text cut into the parts of a pattern, with the characters of its groups. -/
inductive Matches : Pattern → Text → List Text → Prop
  | nil : Matches [] [] []
  | exactly {rest text groups} (word : Text) (later : Matches rest text groups) :
    Matches (.exactly word :: rest) (word ++ text) groups
  | run {holds least rest text groups} (group : Bool) {taken : Text}
    (inside : ∀ c ∈ taken, holds c = true) (enough : least ≤ taken.length)
    (later : Matches rest text groups) :
    Matches (.run holds least group :: rest) (taken ++ text)
      (if group then taken :: groups else groups)

variable {rest : Pattern} {text : Text} {groups : List Text}

theorem matches_nil_iff : Matches [] text groups ↔ text = [] ∧ groups = [] := by
  constructor
  · intro h
    cases h
    exact ⟨rfl, rfl⟩
  · rintro ⟨rfl, rfl⟩
    exact .nil

theorem matches_exactly_iff {word : Text} :
    Matches (.exactly word :: rest) text groups ↔
      ∃ behind, text = word ++ behind ∧ Matches rest behind groups := by
  constructor
  · intro h
    cases h with
    | exactly _ later => exact ⟨_, rfl, later⟩
  · rintro ⟨behind, rfl, later⟩
    exact .exactly word later

theorem matches_run_iff {holds : Char → Bool} {least : Nat} {group : Bool} :
    Matches (.run holds least group :: rest) text groups ↔
      ∃ taken behind groups', text = taken ++ behind ∧ (∀ c ∈ taken, holds c = true) ∧
        least ≤ taken.length ∧ Matches rest behind groups' ∧
        groups = if group then taken :: groups' else groups' := by
  constructor
  · intro h
    cases h with
    | run _ inside enough later => exact ⟨_, _, _, rfl, inside, enough, later, rfl⟩
  · rintro ⟨taken, behind, groups', rfl, inside, enough, later, rfl⟩
    exact .run group inside enough later

/-- What a run has taken when it has given some of it back. -/
theorem holds_of_mem_take {holds : Char → Bool} {count : Nat}
    (h : count ≤ (text.takeWhile holds).length) : ∀ c ∈ text.take count, holds c = true := by
  intro c mem
  have whole : text.take count = (text.takeWhile holds).take count := by
    have := @List.take_append_of_le_length _ _ (text.dropWhile holds) _ h
    rwa [List.takeWhile_append_dropWhile] at this
  rw [whole] at mem
  exact List.all_eq_true.1 List.all_takeWhile c (List.mem_of_mem_take mem)

theorem Matches.of_match? {p : Pattern} (h : p.match? text = some groups) :
    Matches p text groups := by
  induction p generalizing text groups with
  | nil =>
    unfold match? at h
    split at h
    · next empty =>
      cases h
      exact empty ▸ .nil
    · cases h
  | cons part rest ih =>
    cases part with
    | exactly word =>
      unfold match? at h
      split at h
      · next here =>
        obtain ⟨behind, rfl⟩ := List.isPrefixOf_iff_prefix.1 here
        rw [List.drop_left] at h
        exact .exactly word (ih h)
      · cases h
    | run holds least group =>
      obtain ⟨givenBack, inRange, h⟩ := List.exists_of_findSome?_eq_some h
      obtain ⟨groups', later, rfl⟩ := Option.map_eq_some_iff.1 h
      have inRange := List.mem_range.1 inRange
      have longest := (List.takeWhile_sublist holds (l := text)).length_le
      have enough : least ≤ (text.take ((text.takeWhile holds).length - givenBack)).length := by
        rw [List.length_take]; omega
      have way := Matches.run group (holds_of_mem_take (Nat.sub_le _ _)) enough (ih later)
      rwa [List.take_append_drop] at way

theorem Matches.isSome_match? {p : Pattern} (h : Matches p text groups) :
    (p.match? text).isSome = true := by
  induction h with
  | nil => rfl
  | @exactly rest text groups word later ih =>
    have here : word.isPrefixOf (word ++ text) = true :=
      List.isPrefixOf_iff_prefix.2 (List.prefix_append word text)
    rw [match?, if_pos here, List.drop_left]
    exact ih
  | @run holds least rest text groups group taken inside enough later ih =>
    -- the run gives back just what it took of the text behind it
    have longest : taken.length ≤ ((taken ++ text).takeWhile holds).length := by
      rw [List.takeWhile_append_of_pos inside, List.length_append]
      exact Nat.le_add_right _ _
    rw [match?, List.findSome?_isSome_iff]
    refine ⟨((taken ++ text).takeWhile holds).length - taken.length,
      List.mem_range.2 (by omega), ?_⟩
    dsimp only
    rw [Nat.sub_sub_self longest, List.drop_left, Option.isSome_map]
    exact ih

/-- Where all ways to match agree on the groups, these are found. -/
theorem match?_eq_some_iff {p : Pattern}
    (agree : ∀ groups', Matches p text groups → Matches p text groups' → groups' = groups) :
    p.match? text = some groups ↔ Matches p text groups := by
  refine ⟨Matches.of_match?, fun h => ?_⟩
  obtain ⟨groups', found⟩ := Option.isSome_iff_exists.1 h.isSome_match?
  rw [found, agree groups' h (Matches.of_match? found)]

end BracketCue.Text.Pattern
