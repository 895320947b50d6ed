import LootSieve.Item.Basic
import LootSieve.Lexicon.Naming
import LootSieve.Tooltip.Error
import LootSieve.Tooltip.Line

/-! The first two lines of a block, title and type line, tell what kind of item it describes. The
rules are asked in order and the first that applies builds the item. Rules on the title come first,
since the type line of a sigil or tribute may end in a word that other rules look for; narrow
wordings come before wide ones. -/

namespace LootSieve.Tooltip
open Text

structure Heading where
  title : List Char
  typeLine : List Char

namespace Heading

def ofBlock? : List String → Option Heading
  | title :: typeLine :: _ => some ⟨trim title.toList, trim typeLine.toList⟩
  | _ => none

def typeLower (heading : Heading) : List Char := lower heading.typeLine

def titleStarts (heading : Heading) (phrase : String) : Bool :=
  phrase.toList.isPrefixOf heading.title

def typeEnds (heading : Heading) (phrase : String) : Bool :=
  phrase.toList.isSuffixOf heading.typeLower

def typeStarts (heading : Heading) (phrase : String) : Bool :=
  phrase.toList.isPrefixOf heading.typeLower

def typeMentions (heading : Heading) (phrase : String) : Bool :=
  occursIn phrase.toList heading.typeLower

/-- The rarity of the first word, or common without words. -/
def leadingRarity (tokens : List (List Char)) : Rarity :=
  match tokens with
  | [] => .common
  | token :: _ => .ofToken token

def spaced (tokens : List (List Char)) : List Char := [' '].intercalate tokens

/-- The type line of gear without annotations and qualifiers. -/
def gearWords (heading : Heading) : List (List Char) :=
  let line := dropAnnotations heading.typeLower
  words (erase "chaos".toList (erase "ancestral".toList line))

def gear (heading : Heading) : Item :=
  let tokens := heading.gearWords
  { Item.plain (leadingRarity tokens) (ItemType.ofGearWording? (spaced tokens.tail)) with
    name := String.ofList (Naming.ofTitle heading.title)
    chaos := heading.typeMentions "chaos" }

def tribute (heading : Heading) : Item :=
  let tokens := words heading.typeLine
  { Item.plain (leadingRarity tokens) (some .tribute) with
    name := String.ofList (Naming.ofTitle (spaced tokens.tail)) }

/-- An item whose rarity is the first word of its type line. -/
def ranked (heading : Heading) (type : ItemType) : Item :=
  Item.plain (leadingRarity (words heading.typeLine)) (some type)

end Heading

inductive Rule where
  | compass
  | nightmareSigil
  | escalationSigil
  | tribute
  | whisperingKey
  | summoningMaterial
  | gem
  | cache
  | whisperingWood
  | cosmetic
  | bossKey
  | rune
  | elixir
  | incense
  | consumable
  | gear
  deriving DecidableEq

namespace Rule
open Heading

def ordered : List Rule :=
  [compass, nightmareSigil, escalationSigil, tribute, whisperingKey, summoningMaterial, gem, cache,
   whisperingWood, cosmetic, bossKey, rune, elixir, incense, consumable, gear]

def applies (heading : Heading) : Rule → Bool
  | compass => heading.titleStarts "Compass"
  | nightmareSigil => heading.titleStarts "Nightmare Sigil"
  | escalationSigil => heading.titleStarts "Escalation Sigil"
  | tribute => heading.titleStarts "TRIBUTE OF"
  | whisperingKey => heading.titleStarts "WHISPERING KEY"
  | summoningMaterial => heading.typeEnds "summoning"
  | gem => heading.typeEnds "gem"
  | cache => heading.typeEnds "cache"
  | whisperingWood => heading.typeEnds "whispering wood"
  | cosmetic => heading.typeStarts "cosmetic"
  | bossKey => heading.typeEnds "boss key"
  | rune => heading.typeMentions "rune of"
  | elixir => heading.typeEnds "elixir"
  | incense => heading.typeEnds "incense"
  | consumable => heading.typeEnds "consumable" || heading.typeEnds "scroll"
  | gear => true

def build (heading : Heading) : Rule → Item
  | compass => .plain .common (some .compass)
  | nightmareSigil => .plain .common (some .sigil)
  | escalationSigil => .plain .common (some .escalationSigil)
  | tribute => heading.tribute
  | whisperingKey => .plain .common (some .consumable)
  | summoningMaterial => .plain .common (some .material)
  | gem => .plain .common (some .gem)
  | cache => .plain .common (some .cache)
  | whisperingWood => .plain .common (some .whisperingWood)
  | cosmetic => { Item.plain .common (some .cosmetic) with cosmeticUpgrade := true }
  | bossKey => .plain .common (some .lairBossKey)
  | rune => .plain (.ofToken (beforePhrase "rune of".toList heading.typeLower)) (some .rune)
  | elixir => heading.ranked .elixir
  | incense => heading.ranked .incense
  | consumable => heading.ranked .consumable
  | gear => heading.gear

/-- The first rule that applies; the last one always does. -/
def forHeading (heading : Heading) : Rule := (ordered.find? (applies heading)).getD gear

end Rule

/-- The rule that a heading falls under with the item it builds. An item left without a name bears
that of the title. -/
def Heading.classify (heading : Heading) : Rule × Item :=
  let rule := Rule.forHeading heading
  let item := rule.build heading
  if item.name.isEmpty then
    (rule, { item with name := String.ofList (Naming.ofTitle heading.title) })
  else (rule, item)

def classify (block : List String) : Except ReadError (Rule × Item) :=
  match Heading.ofBlock? block with
  | some heading => .ok heading.classify
  | none => .error .emptyBlock

end LootSieve.Tooltip
