import BlizzLikeCore.Item
import Mathlib.Logic.Function.Basic
import Mathlib.Data.Fintype.Basic

/-!
# Quest logs

The quests of a player and how many of the items they ask for he has.  Items are counted by entry, the
bank included.

A quest that is completed can be rewarded at once, so its items go, and others come, while an item is
being added.  What is left to do then is a list of tasks, the innermost first, as for motion masters; the
requests of the player are handled when there is nothing to do.

Left out: experience, money, reputation, spells and mails of a reward, and the bits of a quest slot, which
nothing here reads; timers only run when the quest gets on.  `m_itemcount` is a `uint32`.
-/

namespace BlizzLike

/-! ## Quests -/

inductive QuestStatus where
  | none | complete | unavailable | incomplete | available | failed
  deriving DecidableEq, Repr

/-- What is read of a quest. -/
structure QuestTemplate where
  questMethod : Nat := 2
  questFlags : Nat := 0
  reqItemId : Fin 4 → Nat := fun _ => 0
  reqItemCount : Fin 4 → Nat := fun _ => 0
  reqCreatureOrGOId : Fin 4 → Int := fun _ => 0
  reqCreatureOrGOCount : Fin 4 → Nat := fun _ => 0
  repObjectiveFaction : Nat := 0
  repObjectiveValue : Int := 0
  rewOrReqMoney : Int := 0
  limitTime : Nat := 0
  srcItemId : Nat := 0
  srcItemCount : Nat := 0
  rewChoiceItemsCount : Nat := 0
  rewChoiceItem : Fin 6 → Nat × Nat := fun _ => (0, 0)
  /-- The first `GetRewItemsCount()` of the items and counts. -/
  rewItems : List (Nat × Nat) := []

def questFlagsAutoRewarded : Nat := 0x000400
def questFlagsRepeatable : Nat := 0x010000
def questFlagsExplorationOrEvent : Nat := 0x020000
def questFlagsDeliver : Nat := 0x040000
def questFlagsSpeakTo : Nat := 0x080000
def questFlagsKillOrCast : Nat := 0x100000
def questFlagsTimed : Nat := 0x200000

namespace QuestTemplate

variable (qInfo : QuestTemplate)

def hasFlag (flag : Nat) : Bool := qInfo.questFlags &&& flag != 0

def isAutoComplete : Bool := qInfo.questMethod == 0

/-- `SrcItemCount`, or 1. -/
def srcCount : Nat := if qInfo.srcItemCount = 0 then 1 else qInfo.srcItemCount

/-- `m_timer` of a quest that is not shared. -/
def startTimer : Nat := if qInfo.hasFlag questFlagsTimed then qInfo.limitTime * 1000 else 0

end QuestTemplate

structure QuestStatusData where
  status : QuestStatus := .none
  rewarded : Bool := false
  explored : Bool := false
  timer : Nat := 0
  itemcount : Fin 4 → Nat := fun _ => 0
  creatureOrGOcount : Fin 4 → Nat := fun _ => 0

/-- What else is asked about the player. -/
structure QuestView where
  money : Nat := 0
  getReputation : Nat → Int := fun _ => 0
  canTakeQuest : Nat → Bool := fun _ => true
  canStoreNewItem : Nat → Nat → Bool := fun _ _ => true
  canUnequipItems : Nat → Nat → Bool := fun _ _ => true
  /-- The next stack of an entry that `DestroyItemCount` finds: its count, and what is in it if it is a bag. -/
  nextStack : Nat → Option (Nat × List (Nat × Nat)) := fun _ => none

/-! ## State -/

/-- What is left to do of a call. -/
inductive QuestTask where
  /-- `ItemAddedQuestCheck`, and the item is stored. -/
  | gain (entry count : Nat)
  | store (entry count : Nat)
  /-- `ItemRemovedQuestCheck`, and the item is taken; before the check when a part of a stack is sold. -/
  | lose (entry count : Nat) (sold : Bool)
  | destroyItemCount (entry count : Nat)
  /-- A reward of `RewardQuest`. -/
  | rewardItem (entry count : Nat)
  /-- The end of `RewardQuest`. -/
  | rewardDone (quest : Nat)
  /-- `AddQuest` from `AdjustQuestReqItemCount` on. -/
  | adjust (quest slot : Nat)
  /-- `HandleQuestLogRemoveQuest` after the source item is taken. -/
  | removeQuest (quest slot : Nat)
  deriving DecidableEq, Repr

def maxQuestLogSize : Nat := 25

/-- `underflow` says that an update of `m_itemcount` has gone below 0. -/
structure QuestLog where
  slots : List Nat := List.replicate maxQuestLogSize 0
  questStatus : Nat → QuestStatusData := fun _ => {}
  items : Nat → Nat := fun _ => 0
  todo : List QuestTask := []
  underflow : Bool := false

namespace QuestLog

variable (om : Nat → Option QuestTemplate) (v : QuestView) (w : QuestLog)

/-- `GetItemCount(entry, true)` -/
def getItemCount (entry : Nat) : Nat := u32 (w.items entry)

def push (tasks : List QuestTask) : QuestLog := { w with todo := tasks ++ w.todo }

def addItems (entry count : Nat) : QuestLog :=
  { w with items := Function.update w.items entry (w.items entry + count) }

def takeItems (entry count : Nat) : QuestLog :=
  { w with items := Function.update w.items entry (w.items entry - count) }

def setQuestSlot (slot quest : Nat) : QuestLog := { w with slots := w.slots.set slot quest }

def findQuestSlot (quest : Nat) : Nat := w.slots.idxOf quest

/-- A write to `mQuestStatus[quest]`. -/
def change (quest : Nat) (f : QuestStatusData → QuestStatusData) : QuestLog :=
  { w with questStatus := Function.update w.questStatus quest (f (w.questStatus quest)) }

def setItemcount (quest : Nat) (j : Fin 4) (n : Nat) : QuestLog :=
  w.change quest fun d => { d with itemcount := Function.update d.itemcount j n }

def setQuestStatus (quest : Nat) (status : QuestStatus) : QuestLog :=
  if (om quest).isSome then w.change quest fun d => { d with status := status } else w

/-! ## Completion -/

def canCompleteQuest (quest : Nat) : Bool :=
  quest != 0 && (w.questStatus quest).status != .complete &&
    match om quest with
    | none => false
    | some qInfo =>
      let q_status := w.questStatus quest
      (qInfo.isAutoComplete && v.canTakeQuest quest) ||
        (q_status.status == .incomplete &&
        !(qInfo.hasFlag questFlagsDeliver &&
          (List.finRange 4).any fun i => qInfo.reqItemCount i != 0 && q_status.itemcount i < qInfo.reqItemCount i) &&
        !(qInfo.hasFlag (questFlagsKillOrCast ||| questFlagsSpeakTo) &&
          (List.finRange 4).any fun i => qInfo.reqCreatureOrGOId i != 0 && qInfo.reqCreatureOrGOCount i != 0 &&
            q_status.creatureOrGOcount i < qInfo.reqCreatureOrGOCount i) &&
        !(qInfo.hasFlag questFlagsExplorationOrEvent && !q_status.explored) &&
        !(qInfo.hasFlag questFlagsTimed && q_status.timer == 0) &&
        !(qInfo.rewOrReqMoney < 0 && v.money < (-qInfo.rewOrReqMoney).toNat) &&
        !(qInfo.repObjectiveFaction != 0 && v.getReputation qInfo.repObjectiveFaction < qInfo.repObjectiveValue))

/-- `RewardQuest` up to its end. -/
def rewardQuest (quest : Nat) (qInfo : QuestTemplate) (reward : Fin 6) : QuestLog :=
  w.push (((List.finRange 4).filter fun i => qInfo.reqItemId i != 0).map (fun i =>
      .destroyItemCount (qInfo.reqItemId i) (qInfo.reqItemCount i)) ++
    (if 0 < qInfo.rewChoiceItemsCount ∧ (qInfo.rewChoiceItem reward).1 ≠ 0 then
      [.rewardItem (qInfo.rewChoiceItem reward).1 (qInfo.rewChoiceItem reward).2] else []) ++
    (qInfo.rewItems.filter fun x => x.1 != 0).map (fun x => .rewardItem x.1 x.2) ++ [.rewardDone quest])

def completeQuest (quest : Nat) : QuestLog :=
  if quest = 0 then w
  else
    let w := w.setQuestStatus om quest .complete
    match om quest with
    | some qInfo => if qInfo.hasFlag questFlagsAutoRewarded then w.rewardQuest quest qInfo 0 else w
    | none => w

def incompleteQuest (quest : Nat) : QuestLog := if quest = 0 then w else w.setQuestStatus om quest .incomplete

/-! ## Items -/

/-- The first objective about an entry, of a quest in the log that is not skipped. -/
def firstObjective (skips : QuestStatus → Bool) (entry : Nat) : Option (Nat × Fin 4) :=
  w.slots.findSome? fun quest =>
    if quest = 0 ∨ skips (w.questStatus quest).status then none
    else
      match om quest with
      | some qInfo =>
        if qInfo.hasFlag questFlagsDeliver then
          ((List.finRange 4).find? fun j => qInfo.reqItemId j == entry).map fun j => (quest, j)
        else none
      | none => none

/-- `ReqItemCount[j]` of a quest. -/
def reqItemCount (quest : Nat) (j : Fin 4) : Nat := ((om quest).map fun qInfo => qInfo.reqItemCount j).getD 0

def itemAddedQuestCheck (entry count : Nat) : QuestLog :=
  match w.firstObjective om (fun status => status ≠ .incomplete) entry with
  | none => w
  | some (quest, j) =>
    let reqitemcount := reqItemCount om quest j
    let curitemcount := (w.questStatus quest).itemcount j
    let w :=
      if curitemcount < reqitemcount then
        let additemcount :=
          if u32 (curitemcount + count) ≤ reqitemcount then count else reqitemcount - curitemcount
        w.setItemcount quest j (u32 (curitemcount + additemcount))
      else w
    if w.canCompleteQuest om v quest then w.completeQuest om quest else w

/-- `curitemcount` of `ItemRemovedQuestCheck`. -/
def countedItems (entry quest : Nat) (j : Fin 4) : Nat :=
  if (w.questStatus quest).status ≠ .complete then (w.questStatus quest).itemcount j else w.getItemCount entry

def itemRemovedQuestCheck (entry count : Nat) : QuestLog :=
  match w.firstObjective om (fun _ => false) entry with
  | none => w
  | some (quest, j) =>
    let reqitemcount := reqItemCount om quest j
    let curitemcount := w.countedItems entry quest j
    if curitemcount < u32 (reqitemcount + count) then
      let remitemcount := if curitemcount ≤ reqitemcount then count else u32 (count + reqitemcount - curitemcount)
      { w.setItemcount quest j (sub32 curitemcount remitemcount) with
        underflow := w.underflow || decide (curitemcount < remitemcount) }.incompleteQuest om quest
    else w

def adjustQuestReqItemCount (quest : Nat) : QuestLog :=
  match om quest with
  | some qInfo =>
    if qInfo.hasFlag questFlagsDeliver then
      w.change quest fun d =>
        { d with
          itemcount := fun i =>
            if qInfo.reqItemCount i ≠ 0 then min (w.getItemCount (qInfo.reqItemId i)) (qInfo.reqItemCount i)
            else d.itemcount i }
    else w
  | none => w

/-! ## Tasks -/

/-- A turn of `DestroyItemCount`; `DestroyItem` of a bag begins with what is in it. -/
def destroyTurn (entry count : Nat) : QuestLog :=
  match v.nextStack entry with
  | none => w
  | some (n, contents) =>
    if n ≤ count then
      w.push (contents.map (fun x => .lose x.1 x.2 false) ++ .lose entry n false ::
        if n = count then [] else [.destroyItemCount entry (count - n)])
    else w.push [.lose entry count false]

/-- A task that was taken off the list.  There is never less of an item than is taken. -/
def exec : QuestTask → QuestLog
  | .gain entry count => (w.push [.store entry count]).itemAddedQuestCheck om v entry count
  | .store entry count => w.addItems entry count
  | .lose entry count sold =>
    if count ≤ w.items entry then
      if sold then (w.takeItems entry count).itemRemovedQuestCheck om entry count
      else (w.itemRemovedQuestCheck om entry count).takeItems entry count
    else w
  | .destroyItemCount entry count => w.destroyTurn v entry count
  | .rewardItem entry count => if v.canStoreNewItem entry count then w.push [.gain entry count] else w
  | .rewardDone quest =>
    match om quest with
    | some qInfo =>
      let w := w.setQuestSlot (w.findQuestSlot quest) 0
      let w := w.setQuestStatus om quest (if qInfo.hasFlag questFlagsRepeatable then .none else .complete)
      w.change quest fun d => { d with rewarded := true }
    | none => w
  | .adjust quest slot =>
    let w := w.adjustQuestReqItemCount om quest
    let w := w.change quest fun d => { d with timer := ((om quest).map QuestTemplate.startTimer).getD 0 }
    w.setQuestSlot slot quest
  | .removeQuest quest slot => (w.setQuestStatus om quest .none).setQuestSlot slot 0

/-! ## Requests -/

/-- `AddQuest` with a free slot. -/
def addQuest (quest slot : Nat) (qInfo : QuestTemplate) : QuestLog :=
  let w := w.change quest fun d =>
    { d with
      status := .incomplete
      explored := false
      itemcount := if qInfo.hasFlag questFlagsDeliver then fun _ => 0 else d.itemcount
      creatureOrGOcount :=
        if qInfo.hasFlag (questFlagsKillOrCast ||| questFlagsSpeakTo) then fun _ => 0 else d.creatureOrGOcount }
  w.push ((if 0 < qInfo.srcItemId ∧ v.canStoreNewItem qInfo.srcItemId qInfo.srcCount then
    [.gain qInfo.srcItemId qInfo.srcCount] else []) ++ [.adjust quest slot])

/-- `HandleQuestLogRemoveQuest` -/
def removeFromLog (slot : Nat) : QuestLog :=
  let quest := w.slots.getD slot 0
  if quest = 0 then w
  else
    match om quest with
    | some qInfo =>
      if 0 < qInfo.srcItemId then
        if v.canUnequipItems qInfo.srcItemId qInfo.srcCount then
          w.push [.destroyItemCount qInfo.srcItemId qInfo.srcCount, .removeQuest quest slot]
        else w
      else w.push [.removeQuest quest slot]
    | none => w.push [.removeQuest quest slot]

end QuestLog

inductive QuestEvent where
  /-- What is under way goes on. -/
  | run
  | addQuest (quest : Nat)
  | gain (entry count : Nat)
  | lose (entry count : Nat) (sold : Bool)
  /-- `CompleteQuest`, where `CanCompleteQuest` says so. -/
  | tryComplete (quest : Nat)
  /-- `CompleteQuest`, as a game master can. -/
  | completeQuest (quest : Nat)
  | rewardQuest (quest : Nat) (reward : Fin 6)
  | removeFromLog (slot : Nat)
  /-- Other objectives get on. -/
  | progress (quest : Nat) (explored : Bool) (timer : Nat) (creatureOrGOcount : Fin 4 → Nat)

namespace QuestLog

variable (om : Nat → Option QuestTemplate) (w : QuestLog)

/-- A request, when there is nothing to do. -/
def request (v : QuestView) : QuestEvent → QuestLog
  | .run => w
  | .addQuest quest =>
    match om quest with
    | some qInfo =>
      if w.findQuestSlot 0 < maxQuestLogSize then w.addQuest v quest (w.findQuestSlot 0) qInfo else w
    | none => w
  | .gain entry count => w.push [.gain entry count]
  | .lose entry count sold => w.push [.lose entry count sold]
  | .tryComplete quest => if w.canCompleteQuest om v quest then w.completeQuest om quest else w
  | .completeQuest quest => w.completeQuest om quest
  | .rewardQuest quest reward =>
    match om quest with
    | some qInfo => w.rewardQuest quest qInfo reward
    | none => w
  | .removeFromLog slot => w.removeFromLog om v slot
  | .progress quest explored timer creatureOrGOcount =>
    w.change quest fun d =>
      { d with explored := explored, timer := timer, creatureOrGOcount := creatureOrGOcount }

def step (e : QuestView × QuestEvent) : QuestLog :=
  match w.todo, e.2 with
  | t :: rest, .run => { w with todo := rest }.exec om e.1 t
  | [], request => w.request om e.1 request
  | _, _ => w

end QuestLog

end BlizzLike
