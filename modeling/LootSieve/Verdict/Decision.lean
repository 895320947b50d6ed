import LootSieve.Verdict.Fallback
import LootSieve.Verdict.Gear
import LootSieve.Verdict.Sigil
import LootSieve.Verdict.Tribute
import LootSieve.Verdict.Unique

/-! The decision about an item. Sigils and tributes have rules of their own. Of the rest, what has
no type, no power or a junk rarity is dropped, unless an unlocked look redeems the rarity; what its
rule does not keep may still be kept for a look. -/

namespace LootSieve.Verdict

/-- A legendary that no item filter accepts may be kept for its aspect. -/
def ofEquipment (item : Item) (profiles : ProfileSet) (policy : Policy) : Verdict :=
  if item.rarity.isUniqueOrMythic then ofUnique item profiles policy
  else
    let byAffixes := ofGear item profiles
    if byAffixes.keep || item.rarity ≠ .legendary then byAffixes
    else ofAspectUpgrade item profiles policy

/-- The item is not worth asking the profiles about. -/
def isUnfit (item : Item) (policy : Policy) : Bool :=
  item.type.isNone || item.power.isNone ||
    (item.rarity.isJunk policy.junkRares && !item.cosmeticUpgrade)

def ofRest (item : Item) (profiles : ProfileSet) (policy : Policy) : Verdict :=
  if isUnfit item policy then dropped
  else
    let verdict := ofEquipment item profiles policy
    if verdict.keep then verdict else ofCosmetic item policy

def decide (item : Item) (profiles : ProfileSet) (policy : Policy) : Verdict :=
  match item.type with
  | some .escalationSigil =>
    if policy.ignoreEscalationSigils then kept else ofSigil item profiles
  | some .sigil => ofSigil item profiles
  | some .tribute => ofTribute item profiles
  | _ => ofRest item profiles policy

end LootSieve.Verdict
