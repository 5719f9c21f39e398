import BlizzLikeCore.Loot.Rolls

/-!
# Loot

One `Loot` object, the rolls a group runs for it and the players who have it open, with the
requests of `LootHandler.cpp` and the group's votes.  What the requests read from elsewhere is
an argument of theirs: who may see an item (`AllowedForPlayer`), whether `CanStoreNewItem`
returns `EQUIP_ERR_OK`, who is online and what the dice show.

`handed` is a ledger beside the state that no request reads: the items given to players.
-/

namespace BlizzLike

def maxNrLootItems : Nat := 16
def maxNrQuestItems : Nat := 32

/-- A `LootStoreItem` with its count drawn; `partyLoot` is the prototype's flag. -/
structure LootStoreItem where
  itemid : Nat
  conditionId : Nat := 0
  needsQuest : Bool := false
  count : Nat := 1
  partyLoot : Bool := false

structure LootItem where
  itemid : Nat
  conditionId : Nat := 0
  count : Nat := 1
  isLooted : Bool := false
  isBlocked : Bool := false
  freeforall : Bool := false
  isUnderthreshold : Bool := false
  isCounted : Bool := false
  needsQuest : Bool := false
  deriving DecidableEq, Repr

structure QuestItem where
  index : Nat
  isLooted : Bool := false
  deriving DecidableEq, Repr

structure Loot where
  items : List LootItem := []
  questItems : List LootItem := []
  gold : Nat := 0
  unlootedCount : Nat := 0
  playerQuestItems : Nat → Option (List QuestItem) := fun _ => none
  playerFFAItems : Nat → Option (List QuestItem) := fun _ => none
  playerNonQuestNonFFAConditionalItems : Nat → Option (List QuestItem) := fun _ => none

/-- Which of the two vectors of a `Loot`, in which filling, and where. -/
structure LootKey where
  fill : Nat
  quest : Bool
  index : Nat
  deriving DecidableEq, Repr

/-- A `LootItem` given to a player; `listed` tells if the loot listed it for him. -/
structure Handout where
  key : LootKey
  player : Nat
  freeforall : Bool
  listed : Bool
  deriving DecidableEq, Repr

/-- The loot, the group's `RollId`, the players whose `GetLootGUID` is this loot's. -/
structure LootRoom where
  loot : Loot := {}
  rollId : List Roll := []
  hasOpen : Nat → Bool := fun _ => false
  nextItemGuid : Nat := 1
  fills : Nat := 0
  handed : List Handout := []

/-- What rolling for a filled loot looks at: the members with their distance, the threshold and
the qualities of `ItemPrototype`, and `CanUseItem`. -/
structure GroupView where
  members : List Nat
  inRange : Nat → Bool
  lootThreshold : Nat
  quality : Nat → Option Nat
  canUseItem : Nat → Nat → Bool

/-- What `DoLootRelease` was called for. -/
inductive LootSource where
  | door
  | fishingNode
  | gameobject
  | corpse
  | item
  | creature
  deriving DecidableEq, Repr

/-- `urand`, from what the generator yields. -/
def urand (lo hi raw : Nat) : Nat := lo + raw % (hi - lo + 1)

/-- The outside world of the end of a roll. -/
structure RollEnd where
  dice : Nat → Nat
  online : Nat → Bool
  canStore : Nat → Bool

/-- The roll of a player. -/
def RollEnd.randomN (e : RollEnd) (pl : Nat) : Nat := urand 1 100 (e.dice pl)

namespace Loot

variable (loot : Loot)

/-! ## Filling -/

/-- The constructor of `LootItem`. -/
def newItem (li : LootStoreItem) : LootItem :=
  { itemid := li.itemid, conditionId := li.conditionId, count := u8 li.count, freeforall := li.partyLoot
    needsQuest := li.needsQuest }

def addItem (li : LootStoreItem) : Loot :=
  if li.needsQuest then
    if loot.questItems.length < maxNrQuestItems then
      { loot with questItems := loot.questItems ++ [newItem li] }
    else loot
  else if loot.items.length < maxNrLootItems then
    { loot with
      items := loot.items ++ [newItem li]
      unlootedCount :=
        if li.conditionId = 0 ∧ li.partyLoot = false then u8 (loot.unlootedCount + 1) else loot.unlootedCount }
  else loot

/-- The places of the items that pass a test. -/
def indicesOf (items : List LootItem) (p : LootItem → Bool) : List Nat :=
  (List.range items.length).filter fun i => (items[i]?).any p

/-- A fresh entry of a player's list for each place. -/
def listOf (indices : List Nat) : List QuestItem := indices.map fun i => { index := i }

def fillFFALoot (pl : Nat) (allowed : LootItem → Bool) : Loot :=
  let ql := indicesOf loot.items fun it => !it.isLooted && it.freeforall && allowed it
  if ql = [] then loot
  else
    { loot with
      unlootedCount := u8 (loot.unlootedCount + ql.length)
      playerFFAItems := Function.update loot.playerFFAItems pl (some (listOf ql)) }

def fillQuestLoot (pl : Nat) (allowed : LootItem → Bool) : Loot :=
  if loot.items.length = maxNrLootItems then loot
  else
    let ql := (indicesOf loot.questItems fun it => !it.isLooted && allowed it).take
      (maxNrLootItems - loot.items.length)
    if ql = [] then loot
    else
      let counted := ql.filter fun i => (loot.questItems[i]?).any fun it => it.freeforall || !it.isBlocked
      { loot with
        questItems := loot.questItems.mapIdx fun i it => if i ∈ ql then { it with isBlocked := true } else it
        unlootedCount := u8 (loot.unlootedCount + counted.length)
        playerQuestItems := Function.update loot.playerQuestItems pl (some (listOf ql)) }

def fillNonQuestNonFFAConditionalLoot (pl : Nat) (allowed : LootItem → Bool) : Loot :=
  let ql := indicesOf loot.items fun it =>
    !it.isLooted && !it.freeforall && it.conditionId != 0 && allowed it
  if ql = [] then loot
  else
    let counted := ql.filter fun i => (loot.items[i]?).any fun it => !it.isCounted
    { loot with
      items := loot.items.mapIdx fun i it => if i ∈ ql then { it with isCounted := true } else it
      unlootedCount := u8 (loot.unlootedCount + counted.length)
      playerNonQuestNonFFAConditionalItems :=
        Function.update loot.playerNonQuestNonFFAConditionalItems pl (some (listOf ql)) }

/-- The lists of a player that are not there yet. -/
def fillLists (pl : Nat) (allowed : LootItem → Bool) : Loot :=
  let l1 := if (loot.playerQuestItems pl).isNone then loot.fillQuestLoot pl allowed else loot
  let l2 := if (l1.playerFFAItems pl).isNone then l1.fillFFALoot pl allowed else l1
  if (l2.playerNonQuestNonFFAConditionalItems pl).isNone then
    l2.fillNonQuestNonFFAConditionalLoot pl allowed
  else l2

/-- `FillLoot` of a cleared loot, and `generateMoneyLoot`. -/
def fillLoot (gold : Nat) (drops : List LootStoreItem) (group : List Nat)
    (allowed : Nat → LootItem → Bool) : Loot :=
  group.foldl (fun l pl => l.fillLists pl (allowed pl)) { drops.foldl addItem {} with gold := gold }

def isLooted : Bool := loot.gold == 0 && loot.unlootedCount == 0

/-! ## Looking an item up -/

/-- What `LootItemInSlot` returns and points to: the item, where it is, and the entries of the
player's lists. -/
structure Found where
  item : LootItem
  quest : Bool
  index : Nat
  qitem : Option Nat := none
  ffaitem : Option Nat := none
  conditem : Option Nat := none
  deriving DecidableEq, Repr

/-- The entry for an index in a player's list. -/
def entryOf (list : Option (List QuestItem)) (index : Nat) : Option Nat :=
  match list with
  | none => none
  | some ql => ql.findIdx? fun q => q.index == index

/-- The flag of an entry, or `dflt` when there is none. -/
def flagOf (list : Option (List QuestItem)) (entry : Option Nat) (dflt : Bool) : Bool :=
  match list, entry with
  | some ql, some k => ((ql[k]?).map QuestItem.isLooted).getD dflt
  | _, _ => dflt

/-- `LootItemInSlot`: where the player's list has an entry for the item, its flag replaces the
item's own. -/
def lootItemInSlot (lootSlot pl : Nat) : Option Found :=
  if lootSlot ≥ loot.items.length then
    match loot.playerQuestItems pl with
    | none => none
    | some ql =>
      match ql[lootSlot - loot.items.length]? with
      | none => none
      | some q =>
        match loot.questItems[q.index]? with
        | none => none
        | some item =>
          if q.isLooted then none
          else some { item := item, quest := true, index := q.index, qitem := some (lootSlot - loot.items.length) }
  else
    match loot.items[lootSlot]? with
    | none => none
    | some item =>
      if item.freeforall then
        let entry := entryOf (loot.playerFFAItems pl) lootSlot
        if flagOf (loot.playerFFAItems pl) entry item.isLooted then none
        else some { item := item, quest := false, index := lootSlot, ffaitem := entry }
      else if item.conditionId ≠ 0 then
        let entry := entryOf (loot.playerNonQuestNonFFAConditionalItems pl) lootSlot
        if flagOf (loot.playerNonQuestNonFFAConditionalItems pl) entry item.isLooted then none
        else some { item := item, quest := false, index := lootSlot, conditem := entry }
      else if item.isLooted then none
      else some { item := item, quest := false, index := lootSlot }

/-! ## Marking -/

/-- Set the flag of an entry of a player's list. -/
def markEntry (lists : Nat → Option (List QuestItem)) (pl k : Nat) : Nat → Option (List QuestItem) :=
  Function.update lists pl ((lists pl).map fun ql => ql.modify k fun q => { q with isLooted := true })

/-- `--unlootedCount`. -/
def uncount : Loot := { loot with unlootedCount := dec8 loot.unlootedCount }

/-- Change an item in place. -/
def modifyItem (quest : Bool) (index : Nat) (f : LootItem → LootItem) : Loot :=
  if quest then { loot with questItems := loot.questItems.modify index f }
  else { loot with items := loot.items.modify index f }

/-- Mark the entry that led to the item. -/
def markFound (pl : Nat) (f : Found) : Loot :=
  match f.qitem, f.ffaitem, f.conditem with
  | some k, _, _ => { loot with playerQuestItems := markEntry loot.playerQuestItems pl k }
  | none, some k, _ => { loot with playerFFAItems := markEntry loot.playerFFAItems pl k }
  | none, none, some k =>
    { loot with
      playerNonQuestNonFFAConditionalItems := markEntry loot.playerNonQuestNonFFAConditionalItems pl k }
  | none, none, none => loot

/-- The marks `HandleAutostoreLootItemOpcode` sets once the item is stored. -/
def markLooted (pl : Nat) (f : Found) : Loot :=
  let l1 := loot.markFound pl f
  let l2 :=
    if f.item.freeforall then l1 else l1.modifyItem f.quest f.index fun it => { it with isLooted := true }
  l2.uncount

end Loot

namespace LootRoom

variable (s : LootRoom)

/-! ## Requests -/

/-- `StoreNewItem` of an item of the loot: none is created when its count is 0. -/
def handOut (item : LootItem) (h : Handout) : LootRoom :=
  if item.count = 0 then s else { s with handed := h :: s.handed }

/-- The loot lists an item of `items` for a player. -/
def listsFor (pl index : Nat) : Bool :=
  match s.loot.playerFFAItems pl with
  | none => false
  | some ql => ql.any fun q => q.index == index

/-- `clear`: the rolls linked to the loot are no longer valid. -/
def clear : LootRoom := { s with loot := {}, fills := s.fills + 1 }

/-- A new roll for the item at a place. -/
def newRoll (rollers : List Nat) (slot : Nat) (it : LootItem) : Roll :=
  Roll.start (s.nextItemGuid + slot) it.itemid slot s.fills rollers

/-- The members who may roll for an item. -/
def rollersFor (view : GroupView) (needBeforeGreed : Bool) (allowed : Nat → LootItem → Bool)
    (it : LootItem) : List Nat :=
  view.members.filter fun pl =>
    (!needBeforeGreed || view.canUseItem pl it.itemid) && allowed pl it && view.inRange pl

/-- The items that are rolled for. -/
def overThreshold (view : GroupView) (it : LootItem) : Bool :=
  match view.quality it.itemid with
  | none => false
  | some q => q ≥ view.lootThreshold && !it.freeforall

/-- The flags an item gets; one without a prototype is skipped. -/
def rollMark (view : GroupView) (rolled : Bool) (it : LootItem) : LootItem :=
  if (view.quality it.itemid).isNone then it
  else if overThreshold view it then if rolled then { it with isBlocked := true } else it
  else { it with isUnderthreshold := true }

/-- A roll is started for the item; in `NeedBeforeGreed` only if anybody can take part. -/
def rolledFor (view : GroupView) (needBeforeGreed : Bool) (allowed : Nat → LootItem → Bool)
    (it : LootItem) : Bool :=
  overThreshold view it &&
    (!needBeforeGreed || u8 (rollersFor view needBeforeGreed allowed it).length != 0)

/-- The common loop of `GroupLoot` and `NeedBeforeGreed`. -/
def startRolls (needBeforeGreed : Bool) (view : GroupView) (allowed : Nat → LootItem → Bool) : LootRoom :=
  { s with
    loot := { s.loot with
      items := s.loot.items.map fun it => rollMark view (rolledFor view needBeforeGreed allowed it) it }
    rollId := s.rollId ++ (s.loot.items.zipIdx.filter fun e =>
        rolledFor view needBeforeGreed allowed e.1).map fun e =>
      s.newRoll (rollersFor view needBeforeGreed allowed e.1) e.2 e.1
    nextItemGuid := s.nextItemGuid + s.loot.items.length }

def groupLoot (view : GroupView) (allowed : Nat → LootItem → Bool) : LootRoom := s.startRolls false view allowed

def needBeforeGreed (view : GroupView) (allowed : Nat → LootItem → Bool) : LootRoom :=
  s.startRolls true view allowed

/-- The generation of the loot in `SendLoot`; `rolls` is the group when its loot method rolls,
with the method. -/
def generate (gold : Nat) (drops : List LootStoreItem) (group : List Nat)
    (allowed : Nat → LootItem → Bool) (rolls : Option (Bool × GroupView)) : LootRoom :=
  let s1 := { s.clear with loot := Loot.fillLoot gold drops group allowed }
  match rolls with
  | none => s1
  | some (false, view) => s1.groupLoot view allowed
  | some (true, view) => s1.needBeforeGreed view allowed

/-- The rest of `SendLoot`: without any permission no list is filled. -/
def sendLoot (pl : Nat) (permission : Bool) (allowed : LootItem → Bool) : LootRoom :=
  { s with
    hasOpen := Function.update s.hasOpen pl true
    loot := if permission then s.loot.fillLists pl allowed else s.loot }

def handleAutostoreLootItem (pl lootSlot : Nat) (canStore : Bool) : LootRoom :=
  if s.hasOpen pl = false then s
  else
    match s.loot.lootItemInSlot lootSlot pl with
    | none => s
    | some f =>
      if f.qitem = none ∧ f.item.isBlocked = true then s
      else if canStore then
        { s with loot := s.loot.markLooted pl f }.handOut f.item
          { key := ⟨s.fills, f.quest, f.index⟩, player := pl, freeforall := f.item.freeforall
            listed := f.quest || f.ffaitem.isSome }
      else s

/-- `HandleLootMoneyOpcode`, as far as it changes the loot. -/
def handleLootMoney : LootRoom := { s with loot := { s.loot with gold := 0 } }

/-- `HandleLootMasterGiveOpcode`; `permitted` is the outcome of the checks of group, looter and
distance.  The slot one past the end passes the size check: what the code reads there is
undefined. -/
def handleLootMasterGive (pl target slotid : Nat) (permitted canStore : Bool) : LootRoom :=
  if permitted = false ∨ s.hasOpen pl = false then s
  else if slotid > s.loot.items.length then s
  else
    match s.loot.items[slotid]? with
    | none => s
    | some item =>
      if canStore then
        { s with
          loot := (s.loot.modifyItem false slotid fun it =>
            { it with count := 0, isLooted := true }).uncount }.handOut item
          { key := ⟨s.fills, false, slotid⟩, player := target, freeforall := item.freeforall
            listed := s.listsFor target slotid }
      else s

/-! ## Rolls -/

/-- The highest of the rolls of one kind; the first voter when nobody rolled above 0. -/
def rollWinner (votes : List (Nat × RollVote)) (kind : RollVote) (dice : Nat → Nat) : Option Nat :=
  match votes with
  | [] => none
  | first :: _ =>
    some (votes.foldl
      (fun best v => if v.2 = kind ∧ best.2 < dice v.1 then (v.1, dice v.1) else best) (first.1, 0)).1

/-- `is_blocked = false`. -/
def unblock (slot : Nat) : LootRoom :=
  { s with loot := s.loot.modifyItem false slot fun it => { it with isBlocked := false } }

/-- The winner of a roll gets the item, or it can be looted by all. -/
def award (r : Roll) (kind : RollVote) (e : RollEnd) : LootRoom :=
  match rollWinner r.playerVote kind e.randomN with
  | none => s
  | some winner =>
    if e.online winner then
      match s.loot.items[r.itemSlot]? with
      | none => s
      | some item =>
        if e.canStore winner then
          { s with
            loot := (s.loot.modifyItem false r.itemSlot fun it => { it with isLooted := true }).uncount }.handOut
            item
            { key := ⟨s.fills, false, r.itemSlot⟩, player := winner, freeforall := item.freeforall
              listed := s.listsFor winner r.itemSlot }
        else s.unblock r.itemSlot
    else s

/-- `isValid`: the loot still has the contents the roll was started for. -/
def isValid (r : Roll) : Bool := r.fill == s.fills

/-- `CountTheRoll` but for the removal of the roll. -/
def countRoll (r : Roll) (e : RollEnd) : LootRoom :=
  if s.isValid r = false then s
  else if r.totalNeed > 0 then s.award r .need e
  else if r.totalGreed > 0 then s.award r .greed e
  else s.unblock r.itemSlot

def countTheRoll (r : Roll) (e : RollEnd) : LootRoom :=
  { s.countRoll r e with rollId := Rolls.erase s.rollId r }

def countRollVote (pl itemGUID choice : Nat) (e : RollEnd) : LootRoom :=
  match Rolls.castVote s.rollId s.isValid (fun _ => s.loot.items.isEmpty) pl itemGUID choice with
  | (rolls, none) => { s with rollId := rolls }
  | (rolls, some r) => { s with rollId := rolls }.countTheRoll r e

def removeRolls (pl : Nat) (e : RollEnd) : LootRoom :=
  let (rolls, counted) := Rolls.removeRolls s.rollId s.isValid (fun _ => s.loot.items.isEmpty) pl
  { counted.foldl (fun t r => t.countRoll r e) s with rollId := rolls }

def endRoll (e : RollEnd) : LootRoom := s.rollId.foldl (fun v r => v.countTheRoll r e) s

/-- `DoLootRelease`; an item that was looted is destroyed or can be looted afresh. -/
def doLootRelease (pl : Nat) (source : LootSource) : LootRoom :=
  let s1 := { s with hasOpen := Function.update s.hasOpen pl false }
  match source with
  | .door => s1
  | .fishingNode => s1.clear
  | .item => s1.clear
  | _ => if s.loot.isLooted then s1.clear else s1

end LootRoom

/-- The requests of players and what else happens to a loot. -/
inductive LootRequest where
  | generate (gold : Nat) (drops : List LootStoreItem) (group : List Nat)
      (allowed : Nat → LootItem → Bool) (rolls : Option (Bool × GroupView))
  | sendLoot (pl : Nat) (permission : Bool) (allowed : LootItem → Bool)
  | autostoreLootItem (pl lootSlot : Nat) (canStore : Bool)
  | lootMoney
  | lootMasterGive (pl target slotid : Nat) (permitted canStore : Bool)
  | rollVote (pl itemGUID choice : Nat) (e : RollEnd)
  | removeMember (pl : Nat) (e : RollEnd)
  | endRoll (e : RollEnd)
  | lootRelease (pl : Nat) (source : LootSource)

namespace LootRoom

def step (s : LootRoom) : LootRequest → LootRoom
  | .generate gold drops group allowed rolls => s.generate gold drops group allowed rolls
  | .sendLoot pl permission allowed => s.sendLoot pl permission allowed
  | .autostoreLootItem pl lootSlot canStore => s.handleAutostoreLootItem pl lootSlot canStore
  | .lootMoney => s.handleLootMoney
  | .lootMasterGive pl target slotid permitted canStore =>
    s.handleLootMasterGive pl target slotid permitted canStore
  | .rollVote pl itemGUID choice e => s.countRollVote pl itemGUID choice e
  | .removeMember pl e => s.removeRolls pl e
  | .endRoll e => s.endRoll e
  | .lootRelease pl source => s.doLootRelease pl source

end LootRoom

end BlizzLike
