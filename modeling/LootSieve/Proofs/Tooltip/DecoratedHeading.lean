import LootSieve.Proofs.Text.Parts
import LootSieve.Proofs.Tooltip.GearHeading

/-! Decorated type lines of gear. Besides the words of rarity and type a type line may show
qualifiers and annotations, in any place and spacing. No other rule finds its wording in a part of
such a line, and dropping annotations and qualifiers leaves the words of rarity and type as they
stand in an undecorated one. -/

namespace LootSieve.Tooltip
open Text

/-! What stands on the line. -/

/-- Words that stand anywhere on a type line and say nothing of rarity and type. -/
def qualifiers : List (List Char) := ["ancestral".toList, "chaos".toList]

def gearTokens (rarity : Rarity) (type : ItemType) : List (List Char) :=
  rarity.name.toList :: words type.wording.toList

/-- A text in parentheses, closed at its end and no earlier, on one line. -/
def IsEnclosed (text : List Char) : Prop :=
  ∃ inner, text = '(' :: inner ++ [')'] ∧ ')' ∉ inner ∧ '\n' ∉ inner

/-- An annotation without the phrases that are looked for in the whole type line. -/
structure IsNote (text : List Char) : Prop where
  enclosed : IsEnclosed text
  rune : occursIn "rune of".toList (lower text) = false
  chaos : occursIn "chaos".toList (lower text) = false

/-- Parts that read as tokens, in their order, with annotations anywhere among them. -/
inductive ReadAs (spells : List Char → List Char → Prop) (isNote : List Char → Prop) :
    List (List Char) → List (List Char) → Prop
  | nil : ReadAs spells isNote [] []
  | token {token part : List Char} {tokens parts : List (List Char)}
    (spelled : spells token part) (rest : ReadAs spells isNote tokens parts) :
    ReadAs spells isNote (token :: tokens) (part :: parts)
  | note {part : List Char} {tokens parts : List (List Char)}
    (noted : isNote part) (rest : ReadAs spells isNote tokens parts) :
    ReadAs spells isNote tokens (part :: parts)

/-- A type line that shows these tokens, in any letter case, and annotations. -/
def ShowsTokens (tokens : List (List Char)) (line : List Char) : Prop :=
  ∃ parts, Parted parts line ∧ ReadAs Spells IsNote tokens parts

/-! Tokens. -/

/-- The words that other rules look for at the end of a type line, or before a second word. -/
def foreignEndings : List String :=
  ["summoning", "gem", "cache", "wood", "key", "elixir", "incense", "consumable", "scroll", "rune"]

/-- The type line without annotations and qualifiers, as it is cut into the words of gear. -/
def strip (line : List Char) : List Char :=
  erase "chaos".toList (erase "ancestral".toList (dropAnnotations line))

/-- What the rules look for in a type line and do not find in a token of one of gear. -/
@[mk_iff]
structure IsPlainToken (token : List Char) : Prop where
  nonempty : token ≠ []
  ascii : IsAscii token
  solid : IsSolid token
  open_absent : '(' ∉ token
  ending : ∀ ending ∈ foreignEndings, ending.toList.isSuffixOf token = false
  cosmetic : "cosmetic".toList.isPrefixOf token = false
  chaos : occursIn "chaos".toList token = decide (token = "chaos".toList)
  stripped : words (strip token) = if token ∈ qualifiers then [] else [token]

instance (token : List Char) : Decidable (IsPlainToken token) :=
  decidable_of_iff _ (isPlainToken_iff token).symm

theorem qualifiers_plain : ∀ token ∈ qualifiers, IsPlainToken token := by
  decide +kernel

theorem gearTokens_plain : ∀ (rarity : Rarity) (type : ItemType), type.isGear = true →
    ∀ token ∈ gearTokens rarity type, IsPlainToken token := by
  decide +kernel

/-! The line in lower case. -/

/-- An annotation as it stands on a lowered line. -/
structure IsLowNote (text : List Char) : Prop where
  enclosed : IsEnclosed text
  rune : ¬ "rune of".toList <:+: text
  chaos : ¬ "chaos".toList <:+: text

theorem IsEnclosed.lowered {part low : List Char} (enclosed : IsEnclosed part)
    (lowers : LowersTo part low) : IsEnclosed low := by
  obtain ⟨inner, rfl, noClose, noBreak⟩ := enclosed
  obtain ⟨body, close, rfl, lowersBody, lowersClose⟩ := lowers.exists_append
  have fromOpening : LowersTo (['('] ++ inner) body := lowersBody
  obtain ⟨first, innerLow, rfl, lowersFirst, lowersInner⟩ := fromOpening.exists_append
  have opening : first = ['('] := lowersFirst.eq_of_spells (by decide) (by decide)
  have closing : close = [')'] := lowersClose.eq_of_spells (by decide) (by decide)
  refine ⟨innerLow, by rw [opening, closing]; rfl, fun member => ?_, fun member => ?_⟩
  · exact noClose (lowersInner.mem_of_mem member (by decide) (by decide))
  · exact noBreak (lowersInner.mem_of_mem member (by decide) (by decide))

theorem IsNote.lowered {part low : List Char} (noted : IsNote part)
    (lowers : LowersTo part low) : IsLowNote low := by
  constructor
  case enclosed => exact noted.enclosed.lowered lowers
  case rune =>
    rw [← occursIn_iff, lowers.occursIn_eq (by decide) (by decide), noted.rune]
    exact Bool.false_ne_true
  case chaos =>
    rw [← occursIn_iff, lowers.occursIn_eq (by decide) (by decide), noted.chaos]
    exact Bool.false_ne_true

/-- Parts of a lowered line, which read as tokens or are annotations. -/
abbrev ReadsLow (tokens parts : List (List Char)) : Prop :=
  ReadAs (fun token part => part = token) IsLowNote tokens parts

theorem ReadAs.lowered {tokens parts lows : List (List Char)}
    (reads : ReadAs Spells IsNote tokens parts) (ascii : ∀ token ∈ tokens, IsAscii token)
    (lowers : List.Forall₂ LowersTo parts lows) : ReadsLow tokens lows := by
  induction reads generalizing lows with
  | nil =>
    cases lowers
    exact .nil
  | token spelled _ ih =>
    obtain ⟨here, later⟩ := List.forall_mem_cons.1 ascii
    cases lowers with
    | cons first rest => exact .token (first.eq_of_spells here spelled) (ih later rest)
  | note noted _ ih =>
    cases lowers with
    | cons first rest => exact .note (noted.lowered first) (ih ascii rest)

section Lowered

variable {tokens parts : List (List Char)} {part line : List Char}

theorem ReadAs.mem_or_isLowNote (reads : ReadsLow tokens parts) :
    ∀ part ∈ parts, part ∈ tokens ∨ IsLowNote part := by
  induction reads with
  | nil => nofun
  | token spelled _ ih =>
    subst spelled
    refine List.forall_mem_cons.2 ⟨.inl List.mem_cons_self, fun part member => ?_⟩
    exact (ih part member).imp_left (List.mem_cons_of_mem _)
  | note noted _ ih => exact List.forall_mem_cons.2 ⟨.inr noted, ih⟩

theorem ReadAs.mem_parts (reads : ReadsLow tokens parts) :
    ∀ token ∈ tokens, token ∈ parts := by
  induction reads with
  | nil => nofun
  | token spelled _ ih =>
    subst spelled
    exact List.forall_mem_cons.2
      ⟨List.mem_cons_self, fun token member => List.mem_cons_of_mem _ (ih token member)⟩
  | note _ _ ih => exact fun token member => List.mem_cons_of_mem _ (ih token member)

/-! The wordings of other rules. -/

/-- Nothing that a rule on type lines looks for is found at its place. -/
structure IsUnclaimed (text : List Char) : Prop where
  ending : ∀ word ∈ foreignEndings, ¬ word.toList <:+ text
  cosmetic : ¬ "cosmetic".toList <+: text
  rune : ¬ "rune of".toList <:+: text

theorem foreignEndings_solid : ∀ word ∈ foreignEndings, word.toList ≠ [] ∧ ')' ∉ word.toList ∧
    IsSolid word.toList := by
  decide

theorem exists_foreignEnding : ∀ ending ∈ typeEndings, ∃ word ∈ foreignEndings,
    word.toList <:+ ending.toList := by
  decide

theorem IsPlainToken.unclaimed (plain : IsPlainToken part) : IsUnclaimed part := by
  constructor
  case ending =>
    intro word member found
    rw [← List.isSuffixOf_iff_suffix, plain.ending word member] at found
    cases found
  case cosmetic =>
    rw [← List.isPrefixOf_iff_prefix, plain.cosmetic]
    exact Bool.false_ne_true
  case rune =>
    intro found
    have blank := plain.solid ' ' (found.subset (by decide))
    cases blank

theorem IsLowNote.unclaimed (noted : IsLowNote part) : IsUnclaimed part := by
  obtain ⟨inner, rfl, _, _⟩ := noted.enclosed
  constructor
  case ending =>
    intro word member found
    obtain ⟨nonempty, noClose, _⟩ := foreignEndings_solid word member
    rcases List.suffix_concat_iff.1 found with empty | ⟨front, same, _⟩
    · exact nonempty empty
    · exact noClose (same ▸ List.mem_append_right front List.mem_cons_self)
  case cosmetic =>
    intro found
    obtain ⟨same, _⟩ := List.cons_prefix_cons.1 found
    cases same
  case rune => exact noted.rune

theorem IsUnclaimed.of_parts (parted : Parted parts line)
    (each : ∀ part ∈ parts, IsUnclaimed part) : IsUnclaimed line := by
  constructor
  case ending =>
    intro word member
    obtain ⟨nonempty, _, solid⟩ := foreignEndings_solid word member
    exact parted.not_isSuffix nonempty solid fun part inParts =>
      (each part inParts).ending word member
  case cosmetic =>
    exact parted.not_isPrefix (by decide) (by decide) fun part inParts =>
      (each part inParts).cosmetic
  case rune =>
    have ends : ∀ part ∈ parts, ¬ "rune".toList <:+ part := fun part inParts =>
      (each part inParts).ending "rune" (by decide)
    have absent : ∀ part ∈ parts, ¬ "rune".toList ++ ' ' :: "of".toList <:+: part :=
      fun part inParts => (each part inParts).rune
    exact parted.not_infix_of_blank (by decide) (by decide) (by decide) absent ends

theorem Heading.forHeading_of_unclaimed {heading : Heading}
    (free : ∀ phrase ∈ categoryTitles, heading.titleStarts phrase = false)
    (unclaimed : IsUnclaimed heading.typeLower) : Rule.forHeading heading = .gear := by
  apply Heading.forHeading_eq_gear free
  case ending =>
    intro ending member
    obtain ⟨word, foreign, suffix⟩ := exists_foreignEnding ending member
    rw [← Bool.not_eq_true]
    intro found
    exact unclaimed.ending word foreign (suffix.trans (List.isSuffixOf_iff_suffix.1 found))
  case cosmetic =>
    rw [← Bool.not_eq_true]
    exact fun found => unclaimed.cosmetic (List.isPrefixOf_iff_prefix.1 found)
  case rune =>
    rw [← Bool.not_eq_true]
    exact fun found => unclaimed.rune ((occursIn_iff _ _).1 found)

theorem occursIn_chaos_of_parts (parted : Parted parts line) (reads : ReadsLow tokens parts)
    (plain : ∀ token ∈ tokens, IsPlainToken token) :
    occursIn "chaos".toList line = decide ("chaos".toList ∈ tokens) := by
  rw [Bool.eq_iff_iff, occursIn_iff, decide_eq_true_eq, parted.infix_iff (by decide) (by decide)]
  constructor
  · rintro ⟨part, member, found⟩
    rcases reads.mem_or_isLowNote part member with isToken | noted
    · rw [← occursIn_iff, (plain part isToken).chaos, decide_eq_true_eq] at found
      exact found ▸ isToken
    · exact absurd found noted.chaos
  · intro isToken
    exact ⟨_, reads.mem_parts _ isToken, List.infix_refl _⟩

/-! What is left of the line. -/

/-- Annotations are found in the part and in what follows it, but not across its end. -/
def IsLocal (part : List Char) : Prop := ∀ text,
  dropAnnotations (part ++ text) = dropAnnotations part ++ dropAnnotations text

theorem annotationWidth_of_ne {char : Char} (other : char ≠ '(') (text : List Char) :
    annotationWidth (char :: text) = 0 := by
  unfold annotationWidth
  split
  · next same => exact absurd (List.cons.inj same).1 other
  · rfl

theorem dropAnnotations_append (noOpen : '(' ∉ part) (text : List Char) :
    dropAnnotations (part ++ text) = part ++ dropAnnotations text := by
  refine eraseMatches_append_of_zero fun tail within nonempty => ?_
  obtain ⟨char, more, rfl⟩ := List.exists_cons_of_ne_nil nonempty
  refine annotationWidth_of_ne ?_ _
  rintro rfl
  exact noOpen (within.subset List.mem_cons_self)

theorem isLocal_of_no_parenthesis (noOpen : '(' ∉ part) : IsLocal part := by
  have nothing : dropAnnotations [] = [] := rfl
  have alone := dropAnnotations_append noOpen []
  rw [List.append_nil, nothing, List.append_nil] at alone
  intro text
  rw [dropAnnotations_append noOpen, alone]

theorem IsEnclosed.dropAnnotations_append (enclosed : IsEnclosed part) (text : List Char) :
    dropAnnotations (part ++ text) = dropAnnotations text := by
  obtain ⟨inner, rfl, noClose, noBreak⟩ := enclosed
  refine eraseMatches_of_width (List.cons_ne_nil _ _) ?_
  have inside : ∀ char ∈ inner, (char ≠ ')' && char ≠ '\n') = true := by
    intro char member
    have notClose : char ≠ ')' := by
      rintro rfl
      exact noClose member
    have notBreak : char ≠ '\n' := by
      rintro rfl
      exact noBreak member
    simp [notClose, notBreak]
  have scanned : (inner ++ ')' :: text).takeWhile (fun char => char ≠ ')' && char ≠ '\n') =
      inner := by
    rw [List.takeWhile_append_of_pos inside, List.takeWhile_cons_of_neg (by decide),
      List.append_nil]
  have rest : (inner ++ ')' :: text).drop inner.length = ')' :: text := List.drop_left
  have split : '(' :: inner ++ [')'] ++ text = '(' :: (inner ++ ')' :: text) := by
    rw [List.append_assoc, List.cons_append, List.singleton_append]
  rw [split, annotationWidth, scanned, rest]
  simp

theorem IsEnclosed.dropAnnotations_eq (enclosed : IsEnclosed part) : dropAnnotations part = [] := by
  have alone := enclosed.dropAnnotations_append []
  rwa [List.append_nil] at alone

theorem IsEnclosed.isLocal (enclosed : IsEnclosed part) : IsLocal part := by
  intro text
  rw [enclosed.dropAnnotations_append, enclosed.dropAnnotations_eq, List.nil_append]

theorem strip_append_blank {char : Char} (isLocal : IsLocal part) (blank : isBlank char = true)
    (text : List Char) : strip (part ++ char :: text) = strip part ++ char :: strip text := by
  have foreign : ∀ phrase ∈ qualifiers, char ∉ phrase := by
    intro phrase member
    exact (qualifiers_plain phrase member).solid.not_mem blank
  have notOpen : '(' ∉ [char] := by
    rw [List.mem_singleton]
    rintro rfl
    exact absurd blank (by decide)
  have kept : dropAnnotations (char :: text) = char :: dropAnnotations text :=
    dropAnnotations_append notOpen text
  unfold strip
  rw [isLocal, kept, erase_append_cons (foreign _ (by decide)),
    erase_append_cons (foreign _ (by decide))]

theorem strip_cons_blank {char : Char} (blank : isBlank char = true) (text : List Char) :
    strip (char :: text) = char :: strip text :=
  strip_append_blank (isLocal_of_no_parenthesis List.not_mem_nil) blank text

theorem words_strip_append (isLocal : IsLocal part) (apart : StartsBlank line) :
    words (strip (part ++ line)) = words (strip part) ++ words (strip line) := by
  cases line with
  | nil =>
    rw [List.append_nil]
    exact (List.append_nil _).symm
  | cons char line =>
    have blank := apart char rfl
    rw [strip_append_blank isLocal blank, words_append_cons blank, strip_cons_blank blank,
      words_cons_blank blank]

/-- What is stripped off a line is stripped off its parts. -/
theorem words_strip (parted : Parted parts line) (locals : ∀ part ∈ parts, IsLocal part) :
    words (strip line) = parts.flatMap fun part => words (strip part) := by
  induction parted with
  | nil => rfl
  | blank blank _ ih => rw [strip_cons_blank blank, words_cons_blank blank, ih locals]
  | part apart _ ih =>
    obtain ⟨here, later⟩ := List.forall_mem_cons.1 locals
    rw [words_strip_append here apart, ih later, List.flatMap_cons]

theorem IsLowNote.stripped (noted : IsLowNote part) : words (strip part) = [] := by
  unfold strip
  rw [noted.enclosed.dropAnnotations_eq]
  rfl

theorem flatMap_words_strip (reads : ReadsLow tokens parts)
    (plain : ∀ token ∈ tokens, IsPlainToken token) :
    (parts.flatMap fun part => words (strip part)) = tokens.filter (· ∉ qualifiers) := by
  induction reads with
  | nil => rfl
  | token spelled _ ih =>
    subst spelled
    obtain ⟨here, later⟩ := List.forall_mem_cons.1 plain
    rw [List.flatMap_cons, here.stripped, ih later, List.filter_cons]
    split
    · next qualifier => simp [qualifier]
    · next wanted => simp [wanted]
  | note noted _ ih => rw [List.flatMap_cons, noted.stripped, ih plain, List.nil_append]

end Lowered

/-! The whole line. -/

theorem standsOut_of_spells {token part : List Char} (plain : IsPlainToken token)
    (spells : Spells token part) : StandsOut part := by
  apply standsOut_of_solid
  case nonempty =>
    rintro rfl
    exact plain.nonempty spells.symm
  case solid =>
    intro char member
    rw [← isBlank_toLower]
    exact plain.solid _ (spells ▸ List.mem_map_of_mem member)

theorem IsEnclosed.standsOut {part : List Char} (enclosed : IsEnclosed part) : StandsOut part := by
  obtain ⟨inner, rfl, _, _⟩ := enclosed
  exact ⟨⟨'(', inner ++ [')'], rfl, by decide⟩, '(' :: inner, ')', rfl, by decide⟩

theorem ReadAs.standsOut {tokens parts : List (List Char)}
    (reads : ReadAs Spells IsNote tokens parts)
    (plain : ∀ token ∈ tokens, IsPlainToken token) : ∀ part ∈ parts, StandsOut part := by
  induction reads with
  | nil => nofun
  | token spelled _ ih =>
    obtain ⟨here, later⟩ := List.forall_mem_cons.1 plain
    exact List.forall_mem_cons.2 ⟨standsOut_of_spells here spelled, ih later⟩
  | note noted _ ih => exact List.forall_mem_cons.2 ⟨noted.enclosed.standsOut, ih plain⟩

/-- A type line of gear is made of tokens that no other rule knows. -/
theorem plain_of_wanted {rarity : Rarity} {type : ItemType} {tokens : List (List Char)}
    (isGear : type.isGear = true)
    (wanted : tokens.filter (· ∉ qualifiers) = gearTokens rarity type) :
    ∀ token ∈ tokens, IsPlainToken token := by
  intro token member
  by_cases qualifier : token ∈ qualifiers
  · exact qualifiers_plain token qualifier
  · apply gearTokens_plain rarity type isGear
    rw [← wanted]
    exact List.mem_filter.2 ⟨member, decide_eq_true qualifier⟩

theorem exists_lowered_parts {tokens : List (List Char)} {line : List Char}
    (shows : ShowsTokens tokens line) (plain : ∀ token ∈ tokens, IsPlainToken token) :
    ∃ parts, Parted parts (lower (trim line)) ∧ ReadsLow tokens parts := by
  obtain ⟨parts, parted, reads⟩ := shows
  obtain ⟨lows, lowered, lowers⟩ := (parted.trim (reads.standsOut plain)).lowered []
  exact ⟨lows, lowered, reads.lowered (fun token member => (plain token member).ascii) lowers⟩

/-- A type line that shows, apart from qualifiers and annotations, the words of a rarity and of a
gear type is that of such gear. The gear is named by the title, and is of chaos where that word is
among the qualifiers. -/
theorem decorated_gear_classified {rarity : Rarity} {type : ItemType} {title typeLine : String}
    {tokens : List (List Char)} (free : TitleIsFree title) (isGear : type.isGear = true)
    (shows : ShowsTokens tokens typeLine.toList)
    (wanted : tokens.filter (· ∉ qualifiers) = gearTokens rarity type) (rest : List String) :
    classify (title :: typeLine :: rest) = .ok (.gear, { Item.plain rarity (some type) with
      name := String.ofList (Naming.ofTitle title.toList)
      chaos := decide ("chaos".toList ∈ tokens) }) := by
  have plain := plain_of_wanted isGear wanted
  obtain ⟨parts, parted, reads⟩ := exists_lowered_parts shows plain
  have unclaimed : IsUnclaimed (lower (trim typeLine.toList)) := by
    refine .of_parts parted fun part member => ?_
    rcases reads.mem_or_isLowNote part member with isToken | noted
    · exact (plain part isToken).unclaimed
    · exact noted.unclaimed
  have cut : words (strip (lower (trim typeLine.toList))) = gearTokens rarity type := by
    rw [words_strip parted fun part member => ?_, flatMap_words_strip reads plain, wanted]
    rcases reads.mem_or_isLowNote part member with isToken | noted
    · exact isLocal_of_no_parenthesis (plain part isToken).open_absent
    · exact noted.enclosed.isLocal
  have chaos := occursIn_chaos_of_parts parted reads plain
  apply classify_of_gear
  case fires => exact Heading.forHeading_of_unclaimed (titleStarts_of_free free _) unclaimed
  case built =>
    rw [← titleName_eq, ← chaos]
    exact Heading.gear_of_gearWords cut isGear
  case named => exact (titleName_eq title).symm

/-- A sword with decoration in front of its words, between them and behind them. -/
theorem decorated_sword_classified :
    let tokens := ["ancestral", "legendary", "two-handed", "chaos", "sword"].map String.toList
    let line := " Ancestral (Equipped) LEGENDARY Two-Handed  chaos Sword (2 rolls lost)"
    TitleIsFree "Edge of Night" ∧ ItemType.sword2H.isGear = true ∧
      ShowsTokens tokens line.toList ∧
      tokens.filter (· ∉ qualifiers) = gearTokens .legendary .sword2H ∧
      classify ["Edge of Night", line] =
        .ok (.gear, { Item.plain .legendary (some .sword2H) with
          name := "edge_of_night", chaos := true }) := by
  intro tokens line
  have free : TitleIsFree "Edge of Night" := by decide +kernel
  have wanted : tokens.filter (· ∉ qualifiers) = gearTokens .legendary .sword2H := by
    decide +kernel
  have equipped : IsNote "(Equipped)".toList :=
    ⟨⟨"Equipped".toList, by decide, by decide, by decide⟩, by decide +kernel, by decide +kernel⟩
  have lost : IsNote "(2 rolls lost)".toList :=
    ⟨⟨"2 rolls lost".toList, by decide, by decide, by decide⟩, by decide +kernel, by decide +kernel⟩
  have cut : line.toList = ' ' :: ("Ancestral".toList ++ ' ' :: ("(Equipped)".toList ++
      ' ' :: ("LEGENDARY".toList ++ ' ' :: ("Two-Handed".toList ++ ' ' :: ' ' ::
      ("chaos".toList ++ ' ' :: ("Sword".toList ++ ' ' ::
      ("(2 rolls lost)".toList ++ []))))))) := by
    decide +kernel
  have next (text : List Char) : StartsBlank (' ' :: text) := startsBlank_cons (by decide) text
  have shows : ShowsTokens tokens line.toList := by
    rw [cut]
    refine ⟨_, .blank rfl (.part (next _) (.blank rfl (.part (next _) (.blank rfl (.part (next _)
      (.blank rfl (.part (next _) (.blank rfl (.blank rfl (.part (next _) (.blank rfl
      (.part (next _) (.blank rfl (.part nofun .nil)))))))))))))), ?_⟩
    exact .token (by decide) (.note equipped (.token (by decide) (.token (by decide)
      (.token (by decide) (.token (by decide) (.note lost .nil))))))
  refine ⟨free, rfl, shows, wanted, ?_⟩
  rw [decorated_gear_classified free rfl shows wanted []]
  have named : String.ofList (Naming.ofTitle "Edge of Night".toList) = "edge_of_night" := by
    decide +kernel
  have chaos : decide ("chaos".toList ∈ tokens) = true := by decide
  rw [named, chaos]

end LootSieve.Tooltip
