import LootSieve.Proofs.Verdict.Independence

/-!
Sigil lists. Whether a filter keeps a sigil comes down to two conditions, one on each list, and the
priority enters only for a sigil on both. So a longer blacklist keeps less, a longer whitelist keeps
more unless it was empty and did not count at all, and what one profile has on its lists changes
nothing about the matches of the others.
-/

namespace LootSieve

/-- The entry names the dungeon or an affix of the sigil and, where it has conditions, one of them
is an affix of the sigil. Rolled and inherent affixes count alike. -/
structure SigilEntry.Lists (entry : SigilEntry) (item : Item) : Prop where
  named : entry.name = item.name ∨
    ∃ affix ∈ item.affixes ++ item.inherents, affix.name = entry.name
  conditioned : entry.conditions = [] ∨
    ∃ affix ∈ item.affixes ++ item.inherents, affix.name ∈ entry.conditions

theorem SigilEntry.lists_iff {entry : SigilEntry} {item : Item} :
    entry.lists item = true ↔ entry.Lists item := by
  simp only [lists, Bool.and_eq_true, Bool.or_eq_true, decide_eq_true_eq, List.contains_iff_mem,
    List.mem_map, List.any_eq_true, List.isEmpty_iff, exists_exists_and_eq_and]
  exact ⟨fun ⟨named, conditioned⟩ => ⟨named, conditioned⟩,
    fun ⟨named, conditioned⟩ => ⟨named, conditioned⟩⟩

/-- Some entry of a list lists the sigil. -/
def IsListed (entries : List SigilEntry) (item : Item) : Prop :=
  ∃ entry ∈ entries, entry.Lists item

section Lists
variable {entries more : List SigilEntry} {item : Item}

theorem any_lists_iff : entries.any (·.lists item) = true ↔ IsListed entries item := by
  simp only [List.any_eq_true, SigilEntry.lists_iff, IsListed]

theorem IsListed.ne_nil (listed : IsListed entries item) : entries ≠ [] := by
  obtain ⟨entry, member, _⟩ := listed
  exact List.ne_nil_of_mem member

theorem IsListed.mono (listed : IsListed entries item) (within : entries ⊆ more) :
    IsListed more item := by
  obtain ⟨entry, member, lists⟩ := listed
  exact ⟨entry, within member, lists⟩

end Lists

namespace SigilFilter
variable {filter : SigilFilter} {item : Item}

/-- All rows of the decision in one: a whitelist with entries must list the sigil, and a blacklist
may list it only if the whitelist does so too and has priority. -/
theorem keeps_iff : filter.keeps item = true ↔
    (filter.whitelist = [] ∨ IsListed filter.whitelist item) ∧
      (IsListed filter.blacklist item →
        IsListed filter.whitelist item ∧ filter.priority = .whitelist) := by
  have notListed : ¬ IsListed [] item := fun listed => listed.ne_nil rfl
  unfold keeps
  dsimp only
  split
  case h_1 noBlack noWhite =>
    rw [List.isEmpty_iff] at noBlack noWhite
    simp [noBlack, noWhite, notListed]
  case h_2 noBlack someWhite =>
    rw [List.isEmpty_iff] at noBlack
    rw [List.isEmpty_eq_false_iff] at someWhite
    simp [noBlack, someWhite, notListed, ← any_lists_iff]
  case h_3 someBlack noWhite =>
    rw [List.isEmpty_iff] at noWhite
    simp [noWhite, notListed, ← any_lists_iff]
  case h_4 someBlack someWhite =>
    rw [List.isEmpty_eq_false_iff] at someWhite
    simp only [← any_lists_iff, someWhite, false_or]
    cases filter.blacklist.any (·.lists item) <;> cases filter.whitelist.any (·.lists item) <;> simp

theorem keeps_of_longer_blacklist {more : List SigilEntry} (longer : filter.blacklist ⊆ more)
    (kept : keeps { filter with blacklist := more } item = true) : filter.keeps item = true := by
  rw [keeps_iff] at kept ⊢
  obtain ⟨onWhite, decides⟩ := kept
  exact ⟨onWhite, fun listed => decides (listed.mono longer)⟩

theorem keeps_longer_whitelist {more : List SigilEntry} (counted : filter.whitelist ≠ [])
    (longer : filter.whitelist ⊆ more) (kept : filter.keeps item = true) :
    keeps { filter with whitelist := more } item = true := by
  rw [keeps_iff] at kept ⊢
  obtain ⟨onWhite, decides⟩ := kept
  have listed : IsListed filter.whitelist item := onWhite.resolve_left counted
  exact ⟨.inr (listed.mono longer), fun black => ⟨listed.mono longer, (decides black).2⟩⟩

/-- The priority matters exactly for a sigil on both lists. -/
theorem keeps_ne_iff {priority : SigilPriority} (flipped : priority ≠ filter.priority) :
    keeps { filter with priority := priority } item ≠ filter.keeps item ↔
      IsListed filter.blacklist item ∧ IsListed filter.whitelist item := by
  rw [Ne, Bool.eq_iff_iff, keeps_iff, keeps_iff]
  dsimp only
  constructor
  case mp =>
    intro differs
    by_contra notBoth
    apply differs
    apply and_congr_right
    intro onWhite
    apply imp_congr_right
    intro black
    exact iff_of_false (fun white => notBoth ⟨black, white.1⟩) fun white => notBoth ⟨black, white.1⟩
  case mpr =>
    rintro ⟨black, white⟩ same
    have decides : priority = .whitelist ↔ filter.priority = .whitelist := by
      simpa [black, white] using same
    cases priority <;> cases given : filter.priority <;> simp_all

end SigilFilter

/-- A nightmare sigil, or an escalation sigil that the policy does not keep unasked. -/
def Item.IsAskedSigil (item : Item) (policy : Policy) : Prop :=
  item.type = some .sigil ∨
    item.type = some .escalationSigil ∧ policy.ignoreEscalationSigils = false

def Profile.withSigils (profile : Profile) (filter : SigilFilter) : Profile :=
  { profile with sigils := some filter }

namespace Verdict
variable {item : Item} {policy : Policy} {profiles : ProfileSet}

theorem decide_of_isAskedSigil (asked : item.IsAskedSigil policy) :
    decide item profiles policy = ofSigil item profiles := by
  unfold decide
  rcases asked with typed | ⟨typed, notIgnored⟩
  · rw [typed]
  · rw [typed, notIgnored]
    rfl

theorem sigilMatch?_eq_some_iff {profile : Profile} {own : Match} :
    sigilMatch? item profile = some own ↔
      (∃ filter, profile.sigils = some filter ∧ filter.keeps item = true) ∧
        own = .named (profile.name ++ ".Sigils") := by
  unfold sigilMatch?
  rw [Option.ite_none_right_eq_some, Option.any_eq_true, Option.some.injEq, eq_comm (a := own)]

theorem keep_ofSigil_iff (present : profiles.hasSigilFilters = true) :
    (ofSigil item profiles).keep = true ↔
      ∃ profile ∈ profiles, ∃ filter, profile.sigils = some filter ∧ filter.keeps item = true := by
  unfold ofSigil
  rw [if_pos present]
  change (!(profiles.filterMap (sigilMatch? item)).isEmpty) = true ↔ _
  rw [Bool.not_eq_true', List.isEmpty_eq_false_iff_exists_mem]
  simp only [List.mem_filterMap, sigilMatch?_eq_some_iff]
  constructor
  · rintro ⟨_, profile, member, keeps, _⟩
    exact ⟨profile, member, keeps⟩
  · rintro ⟨profile, member, keeps⟩
    exact ⟨_, profile, member, keeps, rfl⟩

/-- The match of a profile whose filter keeps the sigil. -/
def ownMatch (profile : Profile) (filter : SigilFilter) (item : Item) : List Match :=
  if filter.keeps item then [.named (profile.name ++ ".Sigils")] else []

section OneFilter
variable {front back : ProfileSet} {profile : Profile} {filter other : SigilFilter}

theorem hasSigilFilters_of_withSigils :
    ProfileSet.hasSigilFilters (front ++ profile.withSigils filter :: back) = true := by
  simp [ProfileSet.hasSigilFilters, Profile.withSigils]

/-- The filter of one profile decides about the match of this profile alone. -/
theorem ofSigil_withSigils :
    ofSigil item (front ++ profile.withSigils filter :: back) =
      ofMatches (front.filterMap (sigilMatch? item) ++ ownMatch profile filter item ++
        back.filterMap (sigilMatch? item)) := by
  have own : (sigilMatch? item (profile.withSigils filter)).toList =
      ownMatch profile filter item := by
    unfold sigilMatch? ownMatch Profile.withSigils
    rw [Option.any_some]
    cases filter.keeps item <;> rfl
  unfold ofSigil
  rw [if_pos hasSigilFilters_of_withSigils, List.filterMap_append,
    List.filterMap_eq_flatMap_toList _ (_ :: back), List.flatMap_cons, own,
    ← List.filterMap_eq_flatMap_toList, List.append_assoc]

theorem accepted_sublist (keeps : other.keeps item = true → filter.keeps item = true) :
    (ofSigil item (front ++ profile.withSigils other :: back)).accepted.Sublist
      (ofSigil item (front ++ profile.withSigils filter :: back)).accepted := by
  have own : (ownMatch profile other item).Sublist (ownMatch profile filter item) := by
    unfold ownMatch
    split
    · next kept =>
      rw [if_pos (keeps kept)]
    · exact List.nil_sublist _
  rw [ofSigil_withSigils, ofSigil_withSigils]
  exact ((List.Sublist.refl _).append own).append (.refl _)

theorem ofSigil_eq_iff :
    ofSigil item (front ++ profile.withSigils other :: back) =
        ofSigil item (front ++ profile.withSigils filter :: back) ↔
      other.keeps item = filter.keeps item := by
  rw [ofSigil_withSigils, ofSigil_withSigils]
  constructor
  case mp =>
    intro same
    have sizes := congrArg (·.accepted.length) same
    simp only [ofMatches, List.length_append, ownMatch] at sizes
    cases kept : other.keeps item <;> cases keptToo : filter.keeps item <;>
      simp [kept, keptToo] at sizes ⊢
  case mpr =>
    intro same
    unfold ownMatch
    rw [same]

end OneFilter

/-- Sigil lists act monotonically. Whatever the filter in one place of a profile set, the matches of
the profiles around it stay, and the sigil is kept exactly if some profile's filter keeps it. A
longer blacklist never adds a match; a longer whitelist never takes one away unless it was empty;
and the priority matters exactly for a sigil on both lists. -/
theorem sigil_lists_monotone (item : Item) (policy : Policy) (asked : item.IsAskedSigil policy)
    (front back : ProfileSet) (profile : Profile) (filter : SigilFilter) :
    let profiles (filter : SigilFilter) : ProfileSet := front ++ profile.withSigils filter :: back
    let verdict (filter : SigilFilter) : Verdict := decide item (profiles filter) policy
    ((verdict filter).accepted = front.filterMap (sigilMatch? item) ++
        ownMatch profile filter item ++ back.filterMap (sigilMatch? item)) ∧
    ((verdict filter).keep = true ↔ ∃ other ∈ profiles filter, ∃ wanted,
        other.sigils = some wanted ∧ wanted.keeps item = true) ∧
    (∀ more, filter.blacklist ⊆ more →
      (SigilFilter.keeps { filter with blacklist := more } item = true →
        filter.keeps item = true) ∧
      (verdict { filter with blacklist := more }).accepted.Sublist (verdict filter).accepted) ∧
    (∀ more, filter.whitelist ≠ [] → filter.whitelist ⊆ more →
      (filter.keeps item = true →
        SigilFilter.keeps { filter with whitelist := more } item = true) ∧
      (verdict filter).accepted.Sublist (verdict { filter with whitelist := more }).accepted) ∧
    ∀ priority, priority ≠ filter.priority →
      (verdict { filter with priority := priority } ≠ verdict filter ↔
        (filter.blacklist ≠ [] ∧ filter.whitelist ≠ []) ∧
          IsListed filter.blacklist item ∧ IsListed filter.whitelist item) := by
  intro profiles verdict
  have verdict_eq : ∀ filter, verdict filter = ofSigil item (profiles filter) :=
    fun _ => decide_of_isAskedSigil asked
  simp only [verdict_eq]
  refine ⟨?_, keep_ofSigil_iff hasSigilFilters_of_withSigils, ?_, ?_, ?_⟩
  case refine_1 =>
    rw [ofSigil_withSigils]
    rfl
  case refine_2 =>
    intro more longer
    exact ⟨SigilFilter.keeps_of_longer_blacklist longer,
      accepted_sublist (SigilFilter.keeps_of_longer_blacklist longer)⟩
  case refine_3 =>
    intro more counted longer
    exact ⟨SigilFilter.keeps_longer_whitelist counted longer,
      accepted_sublist (SigilFilter.keeps_longer_whitelist counted longer)⟩
  case refine_4 =>
    intro priority flipped
    rw [Ne, ofSigil_eq_iff, ← Ne, SigilFilter.keeps_ne_iff flipped]
    constructor
    · intro both
      exact ⟨⟨both.1.ne_nil, both.2.ne_nil⟩, both⟩
    · exact And.right

def reservoirSigil : Item :=
  { Item.plain .common (some .escalationSigil) with
    name := "ancient_reservoir"
    affixes := [⟨"cold_resist", "", .none, .normal⟩]
    inherents := [⟨"armor_breakers", "", .none, .inherent⟩] }

/-- Has the sigil on both lists, once by a rolled affix and once by its name beside an inherent. -/
def contestedFilter : SigilFilter :=
  ⟨[⟨"cold_resist", []⟩], [⟨"ancient_reservoir", ["armor_breakers"]⟩], .whitelist⟩

/-- One more entry on either list leaves the matches as they are or moves them the way it may; the
other priority takes the match of the contested filter away. -/
theorem reservoirSigil_contested :
    let roads : Profile := ⟨"roads", [], [], some ⟨[], [], .blacklist⟩, [], []⟩
    let maps : Profile := ⟨"maps", [], [], none, [], []⟩
    let verdict (filter : SigilFilter) : Verdict :=
      decide reservoirSigil ([roads] ++ maps.withSigils filter :: []) .standard
    let black : List SigilEntry := ⟨"drifting_shade", []⟩ :: contestedFilter.blacklist
    let white : List SigilEntry := ⟨"drifting_shade", []⟩ :: contestedFilter.whitelist
    reservoirSigil.IsAskedSigil .standard ∧
    (verdict contestedFilter).matchedNames = ["roads.Sigils", "maps.Sigils"] ∧
    contestedFilter.blacklist ⊆ black ∧
    (verdict { contestedFilter with blacklist := black }).accepted.Sublist
      (verdict contestedFilter).accepted ∧
    contestedFilter.whitelist ≠ [] ∧ contestedFilter.whitelist ⊆ white ∧
    (verdict contestedFilter).accepted.Sublist
      (verdict { contestedFilter with whitelist := white }).accepted ∧
    SigilPriority.blacklist ≠ contestedFilter.priority ∧
    verdict { contestedFilter with priority := .blacklist } ≠ verdict contestedFilter := by
  intro roads maps verdict black white
  have asked : reservoirSigil.IsAskedSigil .standard := .inr ⟨rfl, rfl⟩
  have counted : contestedFilter.whitelist ≠ [] := List.cons_ne_nil _ _
  have longerBlack : contestedFilter.blacklist ⊆ black := List.subset_cons_self _ _
  have longerWhite : contestedFilter.whitelist ⊆ white := List.subset_cons_self _ _
  have onBlack : IsListed contestedFilter.blacklist reservoirSigil := any_lists_iff.1 (by decide)
  have onWhite : IsListed contestedFilter.whitelist reservoirSigil := any_lists_iff.1 (by decide)
  obtain ⟨accepted, _, blacker, whiter, flips⟩ :=
    sigil_lists_monotone reservoirSigil .standard asked [roads] [] maps contestedFilter
  refine ⟨asked, ?_, longerBlack, (blacker black longerBlack).2, counted, longerWhite,
    (whiter white counted longerWhite).2, nofun, ?_⟩
  · change (verdict contestedFilter).accepted.map (·.name) = _
    rw [accepted]
    decide
  · exact (flips .blacklist nofun).2 ⟨⟨List.cons_ne_nil _ _, counted⟩, onBlack, onWhite⟩

end Verdict

end LootSieve
