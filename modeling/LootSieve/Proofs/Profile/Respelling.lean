import LootSieve.Proofs.Profile.Spellings

/-!
Profile documents that differ in how their entries are spelled only. Reading is followed from the
entries through pools and filters to the whole document: the drafts have one long form, and so the
documents are loaded as the same profile or refused for the same fault.
-/

namespace LootSieve
open Yaml Yaml.Value Optional

/-! The places of a document at which an entry stands. Elsewhere nothing differs. -/

def PoolPlace : String → Value → Value → Prop
  | "count" => Items (Spelled SpellsRequirement)
  | _ => Eq

def ItemFilterPlace : String → Value → Value → Prop
  | "affixPool" | "inherentPool" => Items (Fields PoolPlace)
  | "itemType" => Spelled SpellsOne
  | _ => Eq

def SigilFilterPlace : String → Value → Value → Prop
  | "blacklist" | "whitelist" => Items (Spelled SpellsSigil)
  | _ => Eq

def UniquePlace : String → Value → Value → Prop
  | "aspect" => Spelled SpellsRequirement
  | "affix" => Items (Spelled SpellsRequirement)
  | "itemType" => Spelled SpellsOne
  | _ => Eq

def ProfilePlace : String → Value → Value → Prop
  | "Affixes" => Items (Fields fun _ => Fields ItemFilterPlace)
  | "Sigils" => Fields SigilFilterPlace
  | "Tributes" => Items (Spelled SpellsTribute)
  | "Uniques" => Items (Fields UniquePlace)
  | _ => Eq

/-- Documents that differ at most in how their entries are spelled. -/
abbrev Respelled : Value → Value → Prop := Fields ProfilePlace

/-! Readers of the places. -/

theorem readsAlike_requirement :
    ReadsAlike (Spelled SpellsRequirement) (SameForm RequirementDraft.longForm)
      Draft.requirement? :=
  readsAlike_spelled fun _ _ => SpellsRequirement.reads

theorem readsAlike_pool :
    ReadsAlike (Fields PoolPlace) (SameForm PoolDraft.longForm) Draft.pool? := by
  intro value other given
  refine rel_bind (given.record _) fun fields others each => ?_
  refine rel_bind (readsAlike_requirement.listOrNull.field each "count" (sameForm_refl _)) ?_
  intro count otherCount sameCount
  refine rel_bind_eq (readsAlike_eq.fieldOr each "minCount" none Eq.refl) fun minCount => ?_
  refine rel_bind_eq (readsAlike_eq.fieldOr each "maxCount" none Eq.refl) fun maxCount => ?_
  refine rel_bind_eq (readsAlike_eq.fieldOr each "minGreaterAffixCount" none Eq.refl) ?_
  intro greaterCount
  exact .some (congrArg (PoolDraft.mk · minCount maxCount greaterCount) sameCount)

theorem readsAlike_itemTypes : ReadsAlike (Spelled SpellsOne) Eq (oneOrMany? Draft.itemType?) :=
  readsAlike_oneOrMany fun _ => rfl

theorem readsAlike_itemFilter :
    ReadsAlike (Fields ItemFilterPlace) (SameForm ItemFilterDraft.longForm) Draft.itemFilter? := by
  intro value other given
  refine rel_bind (given.record _) fun fields others each => ?_
  refine rel_bind (readsAlike_pool.listOrNull.fieldOr each "affixPool" [] (sameForm_refl _)) ?_
  intro affixPools otherAffixPools sameAffixPools
  refine rel_bind (readsAlike_pool.listOrNull.fieldOr each "inherentPool" [] (sameForm_refl _)) ?_
  intro inherentPools otherInherentPools sameInherentPools
  refine rel_bind_eq (readsAlike_itemTypes.fieldOr each "itemType" [] Eq.refl) fun types => ?_
  refine rel_bind_eq (readsAlike_eq.fieldOr each "minGreaterAffixCount" 0 Eq.refl) ?_
  intro minGreaterCount
  refine rel_bind_eq (readsAlike_eq.fieldOr each "minPower" 0 Eq.refl) fun minPower => ?_
  exact .some (congrArg₂ (ItemFilterDraft.mk · · types minGreaterCount minPower) sameAffixPools
    sameInherentPools)

theorem readsAlike_itemFilters : ReadsAlike (Fields fun _ => Fields ItemFilterPlace)
    (SameForm (List.map ItemFilterDraft.namedLongForm)) Draft.itemFilters? := by
  intro value other given
  refine rel_bind given.entriesOrNull fun entries others each => ?_
  -- filters are sorted by their names, which the long form keeps
  have sorted : ∀ filters : List (String × ItemFilterDraft),
      (filters.mergeSort fun left right => decide (left.1 ≤ right.1)).map
          ItemFilterDraft.namedLongForm =
        (filters.map ItemFilterDraft.namedLongForm).mergeSort
          fun left right => decide (left.1 ≤ right.1) :=
    fun _ => List.map_mergeSort fun _ _ _ _ => rfl
  have readsEntry : ∀ entry otherEntry : String × Value,
      SameField (fun _ => Fields ItemFilterPlace) entry otherEntry →
        Option.Rel (SameForm ItemFilterDraft.namedLongForm)
          (do return (entry.1, ← Draft.itemFilter? entry.2))
          (do return (otherEntry.1, ← Draft.itemFilter? otherEntry.2)) := by
    rintro ⟨name, filter⟩ ⟨_, otherFilter⟩ ⟨rfl, given⟩
    have reads : Option.Rel (SameForm ItemFilterDraft.longForm) (Draft.itemFilter? filter)
        (Draft.itemFilter? otherFilter) := by
      rcases given with rfl | given
      · exact rel_refl (sameForm_refl _) _
      · exact readsAlike_itemFilter filter otherFilter given
    refine rel_bind reads fun draft otherDraft same => ?_
    exact .some (congrArg (Prod.mk name) same)
  refine rel_bind (rel_mapM each readsEntry) fun filters otherFilters same => ?_
  refine .some ?_
  rw [SameForm, sorted, sorted, show List.map _ _ = List.map _ _ from sameForm_map same]

theorem readsAlike_sigilFilter :
    ReadsAlike (Fields SigilFilterPlace) (SameForm SigilFilterDraft.longForm)
      Draft.sigilFilter? := by
  have readsEntry : ReadsAlike (Spelled SpellsSigil) (SameForm SigilDraft.longForm) Draft.sigil? :=
    readsAlike_spelled fun _ _ => SpellsSigil.reads
  intro value other given
  refine rel_bind (given.record _) fun fields others each => ?_
  refine rel_bind (readsEntry.listOrNull.fieldOr each "blacklist" [] (sameForm_refl _)) ?_
  intro blacklist otherBlacklist sameBlacklist
  refine rel_bind (readsEntry.listOrNull.fieldOr each "whitelist" [] (sameForm_refl _)) ?_
  intro whitelist otherWhitelist sameWhitelist
  refine rel_bind_eq (readsAlike_eq.fieldOr each "priority" SigilPriority.blacklist Eq.refl) ?_
  intro priority
  exact .some (congrArg₂ (SigilFilterDraft.mk · · priority) sameBlacklist sameWhitelist)

theorem readsAlike_unique :
    ReadsAlike (Fields UniquePlace) (SameForm UniqueDraft.longForm) Draft.unique? := by
  have sparesNull : SparesNull (Spelled SpellsRequirement) := by
    refine sparesNull_spelled fun requirement spells => ?_
    cases spells with
    | record _ isRecord => cases isRecord
  intro value other given
  refine rel_bind (given.record _) fun fields others each => ?_
  refine rel_bind ((readsAlike_requirement.orNull sparesNull).fieldOr each "aspect" none
    (sameForm_refl _)) ?_
  intro aspect otherAspect sameAspect
  refine rel_bind (readsAlike_requirement.listOrNull.fieldOr each "affix" [] (sameForm_refl _)) ?_
  intro affixes otherAffixes sameAffixes
  refine rel_bind_eq (readsAlike_itemTypes.fieldOr each "itemType" [] Eq.refl) fun types => ?_
  refine rel_bind_eq (readsAlike_eq.fieldOr each "profileAlias" none Eq.refl) fun profileAlias => ?_
  refine rel_bind_eq (readsAlike_eq.fieldOr each "minGreaterAffixCount" 0 Eq.refl) ?_
  intro minGreaterCount
  refine rel_bind_eq (readsAlike_eq.fieldOr each "minPercentOfAspect" 0 Eq.refl) ?_
  intro minPercent
  refine rel_bind_eq (readsAlike_eq.fieldOr each "minPower" 0 Eq.refl) fun minPower => ?_
  refine rel_bind_eq (readsAlike_eq.fieldOr each "mythic" false Eq.refl) fun mythic => ?_
  exact .some (congrArg₂
    (UniqueDraft.mk · · types profileAlias minGreaterCount minPercent minPower mythic)
    sameAspect sameAffixes)

theorem readsAlike_profile :
    ReadsAlike (Fields ProfilePlace) (SameForm ProfileDraft.longForm) Draft.profile? := by
  have readsTribute :
      ReadsAlike (Spelled SpellsTribute) (SameForm TributeDraft.longForm) Draft.tribute? :=
    readsAlike_spelled fun _ _ => SpellsTribute.reads
  intro value other given
  refine rel_bind (given.record _) fun fields others each => ?_
  refine rel_bind (readsAlike_itemFilters.listOrNull.fieldOr each "Affixes" [] (sameForm_refl _)) ?_
  intro affixes otherAffixes sameAffixes
  refine rel_bind_eq (readsAlike_eq.fieldOr each "AspectUpgrades" [] Eq.refl) ?_
  intro aspectUpgrades
  refine rel_bind ((readsAlike_sigilFilter.orNull sparesNull_fields).fieldOr each "Sigils" none
    (sameForm_refl _)) ?_
  intro sigils otherSigils sameSigils
  refine rel_bind (readsTribute.listOrNull.fieldOr each "Tributes" [] (sameForm_refl _)) ?_
  intro tributes otherTributes sameTributes
  refine rel_bind (readsAlike_unique.listOrNull.fieldOr each "Uniques" [] (sameForm_refl _)) ?_
  intro uniques otherUniques sameUniques
  refine .some ?_
  simp only [SameForm] at sameAffixes sameSigils sameTributes sameUniques ⊢
  simp only [ProfileDraft.longForm, sameAffixes, sameSigils, sameTributes, sameUniques]

/-! Documents. -/

namespace Profile

theorem ofValue_of_respelled (lexicon : Lexicon) (name : String) {value other : Value}
    (respelled : Respelled value other) :
    ofValue lexicon name value = ofValue lexicon name other := by
  cases respelled with
  | same => rfl
  | @mapping entries others each =>
    have alike : Option.Rel (SameForm ProfileDraft.longForm)
        (TreeReader.generic.draft? (.mapping entries))
        (TreeReader.generic.draft? (.mapping others)) := readsAlike_profile _ _ (.mapping each)
    -- no mapping is null, so either document is read as a draft
    have notNull : ∀ entries, TreeReader.generic.isNull (.mapping entries) = false := fun _ => rfl
    unfold ofValue TreeReader.draft
    rw [notNull, notNull]
    generalize TreeReader.generic.draft? (.mapping entries) = left,
      TreeReader.generic.draft? (.mapping others) = right at alike ⊢
    cases alike with
    | none => rfl
    | @some draft otherDraft same =>
      calc draft.toProfile lexicon name
        _ = draft.longForm.toProfile lexicon name := (draft.toProfile_longForm lexicon name).symm
        _ = otherDraft.longForm.toProfile lexicon name := congrArg _ same
        _ = otherDraft.toProfile lexicon name := otherDraft.toProfile_longForm lexicon name

theorem loadBy_of_parsed {parse? : String → Option Value} {text : String} {value : Value}
    (parsed : parse? text = some value) (lexicon : Lexicon) (name : String) :
    loadBy parse? .generic lexicon name text =
      (ofValue lexicon name value).mapError fun fault => ⟨name, fault⟩ := by
  unfold loadBy ProfileDraft.read
  rw [parsed]
  rfl

/-- However its entries are spelled, a document is loaded as the same profile or refused for the
same fault, whichever way texts are parsed. -/
theorem spellings_load_alike (lexicon : Lexicon) (name : String) {value other : Value}
    (respelled : Respelled value other) :
    ofValue lexicon name value = ofValue lexicon name other ∧
      ∀ (parse? : String → Option Value) (text otherText : String), parse? text = some value →
        parse? otherText = some other →
        loadBy parse? .generic lexicon name text =
          loadBy parse? .generic lexicon name otherText := by
  have same := ofValue_of_respelled lexicon name respelled
  refine ⟨same, fun parse? text otherText parsed otherParsed => ?_⟩
  rw [loadBy_of_parsed parsed, loadBy_of_parsed otherParsed, same]

/-! A document spelled in two ways. -/

deriving instance DecidableEq for Token

-- values hold floats and are not decidably equal, so a text is evaluated up to its tokens first
theorem read?_of_tokens {text : String} {tokens : List Token} {value : Value}
    (scanned : tokens? text.toList = some tokens)
    (parsed : (Node.ofTokens? tokens).bind (Value.ofNode? Value.maxDepth) = some value) :
    Value.read? text = some value := by
  unfold Value.read? Node.read?
  rw [scanned]
  exact parsed

def shortText : String := "Tributes: [rare]\nUniques:\n- aspect: [azurite, 3]\n"

def shortValue : Value := .mapping [
  (.text "Tributes", .list [.text "rare"]),
  (.text "Uniques", .list [.mapping [(.text "aspect", .list [.text "azurite", .integer 3])]])]

def longText : String :=
  "Tributes:\n- rarities: rare\nUniques:\n- aspect:\n    value: 3\n    name: azurite\n"

def longValue : Value := .mapping [
  (.text "Tributes", .list [.mapping [(.text "rarities", .text "rare")]]),
  (.text "Uniques", .list [.mapping [(.text "aspect",
    .mapping [(.text "value", .integer 3), (.text "name", .text "azurite")])]])]

def plain (word : String) : Token := .scalar true word.toList

theorem read?_shortText : Value.read? shortText = some shortValue := by
  have scanned : tokens? shortText.toList = some [.blockMapping, .key, plain "Tributes", .value,
      .flowSequence, plain "rare", .flowSequenceEnd, .key, plain "Uniques", .value, .entry,
      .blockMapping, .key, plain "aspect", .value, .flowSequence, plain "azurite", .comma,
      plain "3", .flowSequenceEnd, .blockEnd, .blockEnd] := by decide +kernel
  exact read?_of_tokens scanned rfl

theorem read?_longText : Value.read? longText = some longValue := by
  have scanned : tokens? longText.toList = some [.blockMapping, .key, plain "Tributes", .value,
      .entry, .blockMapping, .key, plain "rarities", .value, plain "rare", .blockEnd, .key,
      plain "Uniques", .value, .entry, .blockMapping, .key, plain "aspect", .value, .blockMapping,
      .key, plain "value", .value, plain "3", .key, plain "name", .value, plain "azurite",
      .blockEnd, .blockEnd, .blockEnd] := by decide +kernel
  exact read?_of_tokens scanned rfl

theorem respelled_azurite : Respelled shortValue longValue := by
  have named : Rarity.ofName "rare" = .ok .rare := rfl
  have isNumber : (Value.integer 3).number? = some (Float.ofInt 3) := rfl
  have tribute : Spelled SpellsTribute (.text "rare")
      (.mapping [(.text "rarities", .text "rare")]) :=
    .respelled (.alone (.rarity named))
      (.record (.rarity named) (@IsRecord.inOrder _ [("rarities", .text "rare")] (.refl _)))
  have aspect : Spelled SpellsRequirement (.list [.text "azurite", .integer 3])
      (.mapping [(.text "value", .integer 3), (.text "name", .text "azurite")]) :=
    .respelled (.list (.value "azurite" isNumber)) (.record (.value "azurite" isNumber)
      (@IsRecord.inOrder _ [("value", .integer 3), ("name", .text "azurite")] (.swap _ _ _)))
  have unique : Fields UniquePlace
      (.mapping [(.text "aspect", .list [.text "azurite", .integer 3])])
      (.mapping [(.text "aspect",
        .mapping [(.text "value", .integer 3), (.text "name", .text "azurite")])]) :=
    .mapping (.cons ⟨rfl, .inr ⟨"aspect", rfl, aspect⟩⟩ .nil)
  exact .mapping (.cons ⟨rfl, .inr ⟨"Tributes", rfl, .list (.cons tribute .nil)⟩⟩
    (.cons ⟨rfl, .inr ⟨"Uniques", rfl, .list (.cons unique .nil)⟩⟩ .nil))

def azuriteLexicon : Lexicon := Lexicon.empty.addUniques [("azurite", none)]

/-- Two texts of one profile, which does load. -/
theorem azurite_loads_alike :
    Respelled shortValue longValue ∧
      load azuriteLexicon "azurite" shortText = load azuriteLexicon "azurite" longText ∧
      (load azuriteLexicon "azurite" shortText).toOption.isSome = true := by
  have alike := spellings_load_alike azuriteLexicon "azurite" respelled_azurite
  refine ⟨respelled_azurite, ?_⟩
  exact ⟨alike.2 Value.read? shortText longText read?_shortText read?_longText, by decide +kernel⟩

end Profile

end LootSieve
