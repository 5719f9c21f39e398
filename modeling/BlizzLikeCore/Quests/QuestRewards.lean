import BlizzLikeCore.Inventory.DestroyExact
import BlizzLikeCore.Inventory.NewItems
import BlizzLikeCore.Money
import BlizzLikeCore.Quests.QuestLog
import Mathlib.Data.Fin.VecNotation

/-!
# Rewarding a quest

`HandleQuestgiverChooseRewardOpcode`, `CanRewardQuest` and `RewardQuest`.  The check asks for each reward
item by itself whether there is room for it, in the inventory as it is.  Then the required items are
destroyed, and the reward items are stored one after another; one that there is no room for any more is
passed over.

    RewardsFit                    : each reward item finds room at its turn
    rewardQuest_exact_iff         : all is taken and given just if it is there at its turn

Left out: experience, reputation, honor, titles, mails and spells of a reward, and what the items and the
money do for the other quests in the log, of which some are rewarded at once (`QuestLog`).
-/

namespace BlizzLike

/-! ## Quests -/

def questFlagsDaily : Nat := 0x001000

/-- A row of `quest_template`, as far as it is read here. -/
structure QuestRewardRow where
  questId : Nat
  questMethod : Nat := 2
  questFlags : Nat := 0
  reqItemId : Fin 4 → Nat := fun _ => 0
  reqItemCount : Fin 4 → Nat := fun _ => 0
  rewChoiceItemId : Fin 6 → Nat := fun _ => 0
  rewChoiceItemCount : Fin 6 → Nat := fun _ => 0
  rewItemId : Fin 4 → Nat := fun _ => 0
  rewItemCount : Fin 4 → Nat := fun _ => 0
  rewOrReqMoney : Int := 0
  rewMoneyMaxLevel : Nat := 0

/-- A quest as `LoadQuests` leaves it; the numbers of reward items are those of the row. -/
structure LoadedQuest extends QuestRewardRow where
  rewChoiceItemsCount : Nat
  rewItemsCount : Nat
  /-- What can be chosen has been counted. -/
  choice_counted : ∀ i, rewChoiceItemId i ≠ 0 → 0 < rewChoiceItemsCount
  choiceCount_lt : ∀ i, rewChoiceItemCount i < 4294967296
  rewCount_lt : ∀ i, rewItemCount i < 4294967296
  money_ge : -2147483648 ≤ rewOrReqMoney

/-- Constructor of `Quest` and checks of `LoadQuests`. -/
def loadQuest (om : ObjectMgr) (row : QuestRewardRow) : LoadedQuest where
  toQuestRewardRow :=
    { row with
      questFlags := row.questFlags |||
        if (List.finRange 4).any fun i => row.reqItemId i != 0 then questFlagsDeliver else 0
      reqItemCount := fun i =>
        if row.reqItemId i = 0 ∨ (om.getItemPrototype (row.reqItemId i)).isNone then 0 else u32 (row.reqItemCount i)
      rewChoiceItemId := fun i =>
        if (om.getItemPrototype (row.rewChoiceItemId i)).isNone then 0 else row.rewChoiceItemId i
      rewChoiceItemCount := fun i => u32 (row.rewChoiceItemCount i)
      rewItemId := fun i => if (om.getItemPrototype (row.rewItemId i)).isNone then 0 else row.rewItemId i
      rewItemCount := fun i => u32 (row.rewItemCount i)
      rewOrReqMoney := toInt32 (u32OfInt row.rewOrReqMoney) }
  rewChoiceItemsCount := (List.finRange 6).countP fun i => row.rewChoiceItemId i != 0
  rewItemsCount := (List.finRange 4).countP fun i => row.rewItemId i != 0
  choice_counted i h := by
    refine List.countP_pos_iff.2 ⟨i, List.mem_finRange i, ?_⟩
    dsimp only at h
    split at h
    · exact absurd rfl h
    · simpa using h
  choiceCount_lt _ := Nat.mod_lt _ (by decide)
  rewCount_lt _ := Nat.mod_lt _ (by decide)
  money_ge := by
    unfold toInt32
    split <;> omega

/-- What is asked about the world and the player, beside what is changed. -/
structure RewardView where
  player : Nat
  isAlive : Bool := true
  level : Nat := 1
  maxPlayerLevel : Nat := 70
  /-- `int32(x * RATE_DROP_MONEY)` -/
  dropMoney : Int → Int := id
  fighter : FighterView := ⟨false, false⟩
  /-- `GetObjectByTypeMask`; the object's `hasInvolvedQuest`. -/
  object : Nat → Option (Nat → Bool) := fun _ => some fun _ => true
  getQuestTemplate : Nat → Option LoadedQuest := fun _ => none
  dropMoney_ge : ∀ x, -2147483648 ≤ x → -2147483648 ≤ dropMoney x := by exact fun _ h => h

namespace LoadedQuest

variable (v : RewardView) (qInfo : LoadedQuest)

def hasFlag (flag : Nat) : Bool := qInfo.questFlags &&& flag != 0

def isAutoComplete : Bool := qInfo.questMethod == 0

def isDaily : Bool := qInfo.hasFlag questFlagsDaily

def isRepeatable : Bool := qInfo.hasFlag questFlagsRepeatable

def getRewOrReqMoney : Int :=
  if qInfo.rewOrReqMoney ≤ 0 then qInfo.rewOrReqMoney else v.dropMoney qInfo.rewOrReqMoney

/-- The items that are destroyed. -/
def required : List (Nat × Nat) :=
  ((List.finRange 4).filter fun i => qInfo.reqItemId i != 0).map fun i => (qInfo.reqItemId i, qInfo.reqItemCount i)

/-- The chosen item. -/
def chosen (reward : Fin 6) : List (Nat × Nat) :=
  if qInfo.rewChoiceItemId reward = 0 then []
  else [(qInfo.rewChoiceItemId reward, qInfo.rewChoiceItemCount reward)]

/-- The fixed reward items in some of their places. -/
def fixedAt (places : List (Fin 4)) : List (Nat × Nat) :=
  (places.filter fun i => qInfo.rewItemId i != 0).map fun i => (qInfo.rewItemId i, qInfo.rewItemCount i)

/-- What `RewardQuest` and the check go through: the chosen item, and the first `GetRewItemsCount()` places. -/
def counted (reward : Fin 6) : List (Nat × Nat) :=
  (if 0 < qInfo.rewChoiceItemsCount then qInfo.chosen reward else []) ++
    qInfo.fixedAt ((List.finRange 4).take qInfo.rewItemsCount)

/-- All that is to be given. -/
def rewards (reward : Fin 6) : List (Nat × Nat) := qInfo.chosen reward ++ qInfo.fixedAt (List.finRange 4)

end LoadedQuest

/-! ## The player -/

/-- What a reward changes. -/
structure QuestTaker where
  holdings : Holdings
  money : Nat := 0
  questStatus : Nat → QuestStatusData := fun _ => {}
  /-- The quests in the log. -/
  slots : List Nat := List.replicate maxQuestLogSize 0
  /-- `PLAYER_FIELD_DAILY_QUESTS_1` -/
  dailies : List Nat := List.replicate 25 0

namespace QuestTaker

variable (om : ObjectMgr) (v : RewardView) (s : QuestTaker) (qInfo : LoadedQuest)

/-! ### The check -/

def satisfyQuestDay : Bool :=
  !qInfo.isDaily || (!s.dailies.contains qInfo.questId && s.dailies.contains 0)

def getQuestRewardStatus : Bool :=
  (s.questStatus qInfo.questId).status != .none && !qInfo.isRepeatable && (s.questStatus qInfo.questId).rewarded

def getQuestStatus (quest : Nat) : QuestStatus := if quest = 0 then .none else (s.questStatus quest).status

/-- `CanRewardQuest`, but for the room. -/
def canReward : Bool :=
  (qInfo.isAutoComplete || s.getQuestStatus qInfo.questId == .complete) && s.satisfyQuestDay qInfo &&
    !s.getQuestRewardStatus qInfo &&
    !(qInfo.hasFlag questFlagsDeliver && (List.finRange 4).any fun i => qInfo.reqItemCount i != 0 &&
      decide (s.holdings.getItemCount om v.player (qInfo.reqItemId i) false none < qInfo.reqItemCount i)) &&
    !(decide (qInfo.getRewOrReqMoney v < 0) && decide (s.money < u32OfInt (-qInfo.getRewOrReqMoney v)))

/-- There is room for an item. -/
def hasRoom (h : Holdings) (item : Nat × Nat) : Bool :=
  (h.canStoreNewItem om v.player nullBag nullSlot item.1 item.2).res == .ok

def canRewardQuest (reward : Fin 6) : Bool :=
  s.canReward om v qInfo && (qInfo.counted reward).all (hasRoom om v s.holdings)

/-! ### The reward -/

/-- A turn of the loop over the required items. -/
def destroyRequired (h : Holdings) (item : Nat × Nat) : Holdings :=
  h.destroyItemCount om v.fighter v.player item.1 item.2 false

/-- A reward item is stored if there is room for it. -/
def giveItem (h : Holdings) (item : Nat × Nat) : Holdings :=
  let r := h.canStoreNewItem om v.player nullBag nullSlot item.1 item.2
  if r.res = .ok then h.storeNewItem om v.player r.dest item.1 else h

/-- The inventory without the required items. -/
def withoutRequired : Holdings := qInfo.required.foldl (destroyRequired om v) s.holdings

/-- The purse, with what a player of the highest level gets in place of experience. -/
def purse : Nat :=
  if v.level < v.maxPlayerLevel then s.money else modifyMoney s.money (v.dropMoney qInfo.rewMoneyMaxLevel)

def setDailyQuestStatus (dailies : List Nat) (quest : Nat) : List Nat := dailies.set (dailies.idxOf 0) quest

def rewardQuest (reward : Fin 6) : QuestTaker where
  holdings := (qInfo.counted reward).foldl (giveItem om v) (s.withoutRequired om v qInfo)
  money := modifyMoney (s.purse v qInfo) (qInfo.getRewOrReqMoney v)
  questStatus := Function.update s.questStatus qInfo.questId
    { s.questStatus qInfo.questId with
      status := if qInfo.isRepeatable then .none else .complete
      rewarded := true }
  slots := s.slots.set (s.slots.idxOf qInfo.questId) 0
  dailies := if qInfo.isDaily then setDailyQuestStatus s.dailies qInfo.questId else s.dailies

/-- `CMSG_QUESTGIVER_CHOOSE_REWARD` -/
structure ChooseReward where
  guid : Nat
  quest : Nat
  reward : Nat

/-- The request as far as the check: the quest and the reward that are asked for. -/
def asked (r : ChooseReward) : Option (LoadedQuest × Fin 6) :=
  if hlt : r.reward < 6 then
    if v.isAlive then
      match v.object r.guid with
      | none => none
      | some hasInvolvedQuest =>
        if hasInvolvedQuest r.quest then (v.getQuestTemplate r.quest).map fun qInfo => (qInfo, ⟨r.reward, hlt⟩)
        else none
    else none
  else none

def handleQuestgiverChooseReward (r : ChooseReward) : QuestTaker :=
  match asked v r with
  | none => s
  | some (qInfo, reward) => if s.canRewardQuest om v qInfo reward then s.rewardQuest om v qInfo reward else s

/-! ## What is promised -/

/-- The units of an entry in a list of items. -/
def unitsIn (items : List (Nat × Nat)) (entry : Nat) : Nat :=
  (items.map fun item => if item.1 = entry then item.2 else 0).sum

/-- Each turn destroys so many units of its item, and nothing else. -/
def TakesExactly : Holdings → List (Nat × Nat) → Prop
  | _, [] => True
  | h, item :: items =>
    Holdings.DestroysExactly om v.fighter h v.player item.1 item.2 ∧ TakesExactly (destroyRequired om v h item) items

/-- What the claimed reward comes to: the required items and the money are taken, nothing else is, every
reward item is given in full, and the quest is marked. -/
structure Rewarded (reward : Fin 6) (t : QuestTaker) : Prop where
  taken : TakesExactly om v s.holdings qInfo.required
  given : ∀ p e, t.holdings.shelf.total p e = (s.withoutRequired om v qInfo).shelf.total p e +
    if p = v.player then unitsIn (qInfo.rewards reward) e else 0
  money : qInfo.getRewOrReqMoney v < 0 → (t.money : Int) = s.purse v qInfo + qInfo.getRewOrReqMoney v
  marked : (t.questStatus qInfo.questId).rewarded = true

/-- A request is answered by the whole reward, or by nothing. -/
def AnswersInFull (r : ChooseReward) : Prop :=
  match asked v r with
  | none => s.handleQuestgiverChooseReward om v r = s
  | some (qInfo, reward) =>
    if s.canRewardQuest om v qInfo reward then
      s.Rewarded om v qInfo reward (s.handleQuestgiverChooseReward om v r)
    else s.handleQuestgiverChooseReward om v r = s

/-! ## The condition -/

/-- Each required item is there in full at its turn, and a bag that goes with them holds nothing else. -/
def CoversRequired : Holdings → List (Nat × Nat) → Prop
  | _, [] => True
  | h, item :: items =>
    h.coversCount v.player item.1 item.2 Holdings.walked = true ∧ CoversRequired (destroyRequired om v h item) items

/-- Each reward item finds room at its turn. -/
def RewardsFit : Holdings → List (Nat × Nat) → Prop
  | _, [] => True
  | h, item :: items => (item.2 = 0 ∨ hasRoom om v h item = true) ∧ RewardsFit (giveItem om v h item) items

instance decidableRewardsFit : (h : Holdings) → (items : List (Nat × Nat)) → Decidable (RewardsFit om v h items)
  | _, [] => .isTrue trivial
  | h, item :: items =>
    have := decidableRewardsFit (giveItem om v h item) items
    inferInstanceAs (Decidable
      ((item.2 = 0 ∨ hasRoom om v h item = true) ∧ RewardsFit om v (giveItem om v h item) items))

/-- The condition on a reward that is handed out. -/
structure Rewardable (reward : Fin 6) : Prop where
  covered : CoversRequired om v s.holdings qInfo.required
  fits : RewardsFit om v (s.withoutRequired om v qInfo) (qInfo.counted reward)
  /-- The fixed reward items are in the places that are counted. -/
  noGap : ∀ item ∈ qInfo.fixedAt ((List.finRange 4).drop qInfo.rewItemsCount), item.2 = 0
  /-- The money that is taken is there, also when the drop rate has lessened the purse before. -/
  funds : qInfo.getRewOrReqMoney v < 0 → -qInfo.getRewOrReqMoney v ≤ s.purse v qInfo

/-! ## Lemmas -/

section
variable {om v s qInfo} {h : Holdings} {items : List (Nat × Nat)}

theorem unitsIn_cons (item : Nat × Nat) (e : Nat) :
    unitsIn (item :: items) e = (if item.1 = e then item.2 else 0) + unitsIn items e := by
  unfold unitsIn
  rw [List.map_cons, List.sum_cons]

theorem unitsIn_append (items' : List (Nat × Nat)) (e : Nat) :
    unitsIn (items ++ items') e = unitsIn items e + unitsIn items' e := by
  unfold unitsIn
  rw [List.map_append, List.sum_append]

theorem unitsIn_eq_zero_iff : (∀ e, unitsIn items e = 0) ↔ ∀ item ∈ items, item.2 = 0 := by
  constructor
  · intro hzero item hitem
    have hsum := hzero item.1
    have hle : (if item.1 = item.1 then item.2 else 0) ≤ unitsIn items item.1 :=
      List.le_sum_of_mem (List.mem_map.2 ⟨item, hitem, rfl⟩)
    rw [if_pos rfl, hsum] at hle
    exact Nat.le_zero.1 hle
  · intro hzero e
    refine List.sum_eq_zero fun n hn => ?_
    obtain ⟨item, hitem, rfl⟩ := List.mem_map.1 hn
    rw [hzero item hitem, ite_self]

/-- **The required items** are taken exactly just if each is covered at its turn. -/
theorem takesExactly_iff (items : List (Nat × Nat)) (hin : h.InOrder om) :
    (TakesExactly om v h items ↔ CoversRequired om v h items) ∧
      (CoversRequired om v h items → (items.foldl (destroyRequired om v) h).InOrder om) := by
  induction items generalizing h with
  | nil => exact ⟨Iff.rfl, fun _ => hin⟩
  | cons item items ih =>
    obtain ⟨hexact, hkeeps⟩ := Holdings.destroysExactly_iff om v.fighter h v.player item.1 hin item.2
    constructor
    · constructor
      · rintro ⟨hhead, htail⟩
        have hcovers := hexact.1 hhead
        exact ⟨hcovers, (ih (hkeeps hcovers)).1.1 htail⟩
      · rintro ⟨hcovers, htail⟩
        exact ⟨hexact.2 hcovers, (ih (hkeeps hcovers)).1.2 htail⟩
    · rintro ⟨hcovers, htail⟩
      exact (ih (hkeeps hcovers)).2 htail

/-- **One reward item** is given in full just if there is room for it; nothing else changes. -/
theorem giveItem_spec (hin : h.InOrder om) (item : Nat × Nat) (hlt : item.2 < 4294967296) :
    (giveItem om v h item).InOrder om ∧ ∃ n ≤ item.2, (n = item.2 ↔ item.2 = 0 ∨ hasRoom om v h item = true) ∧
      ∀ p e, (giveItem om v h item).shelf.total p e = h.shelf.total p e +
        if p = v.player ∧ e = item.1 then n else 0 := by
  unfold giveItem hasRoom
  dsimp only
  by_cases hok : (h.canStoreNewItem om v.player nullBag nullSlot item.1 item.2).res = .ok
  swap
  · rw [if_neg hok]
    refine ⟨hin, 0, Nat.zero_le _, ⟨fun hzero => .inl hzero.symm, fun hor => ?_⟩, fun p e => by simp⟩
    exact (hor.resolve_right fun hroom => hok (eq_of_beq hroom)).symm
  rw [if_pos hok]
  rcases Nat.eq_zero_or_pos item.2 with hzero | hpos
  · have hsz := h.bagsSized_of_bagsWorn om v.player hin.orderly hin.bagsWorn
    rw [hzero] at hok ⊢
    rw [h.storeNewItem_none om v.player hsz item.1 hok]
    exact ⟨hin, 0, Nat.le_refl _, iff_of_true rfl (.inl rfl), fun p e => by simp⟩
  · obtain ⟨hkeeps, htotal⟩ := h.storeNewItem_spec om v.player hin item.1 item.2 hpos hlt hok
    exact ⟨hkeeps, item.2, Nat.le_refl _, iff_of_true rfl (.inr (by rw [hok]; rfl)), htotal⟩

/-- **The reward items** are given in full just if each finds room at its turn; never more is given. -/
theorem giveItems_spec (hin : h.InOrder om) (hlt : ∀ item ∈ items, item.2 < 4294967296) :
    (∀ p e, (items.foldl (giveItem om v) h).shelf.total p e ≤ h.shelf.total p e +
        if p = v.player then unitsIn items e else 0) ∧
      ((∀ p e, (items.foldl (giveItem om v) h).shelf.total p e = h.shelf.total p e +
        if p = v.player then unitsIn items e else 0) ↔ RewardsFit om v h items) := by
  induction items generalizing h with
  | nil => exact ⟨fun p e => Nat.le_add_right _ _, iff_of_true (fun p e => by simp [unitsIn]) trivial⟩
  | cons item items ih =>
    rw [List.forall_mem_cons] at hlt
    obtain ⟨hkeeps, n, hn, hall, htotal⟩ := giveItem_spec (v := v) hin item hlt.1
    obtain ⟨hle, hfit⟩ := ih hkeeps hlt.2
    rw [List.foldl_cons]
    generalize items.foldl (giveItem om v) (giveItem om v h item) = t at hle hfit
    have hstep : ∀ p e, (if p = v.player ∧ e = item.1 then n else 0) ≤
        if p = v.player then (if item.1 = e then item.2 else 0) else 0 := by
      intro p e
      by_cases hp : p = v.player
      · by_cases he : e = item.1
        · simp [hp, he, hn]
        · simp [he]
      · simp [hp]
    have hsum : ∀ p e, (if p = v.player then unitsIn (item :: items) e else 0) =
        (if p = v.player then (if item.1 = e then item.2 else 0) else 0) +
          if p = v.player then unitsIn items e else 0 := by
      intro p e
      rw [unitsIn_cons]
      split <;> rfl
    refine ⟨fun p e => ?_, fun hexact => ⟨hall.1 ?_, hfit.1 fun p e => ?_⟩, fun hcond p e => ?_⟩
    · have h1 := hle p e
      have h2 := htotal p e
      have h3 := hstep p e
      rw [hsum]
      omega
    · have h1 := hle v.player item.1
      have h2 := htotal v.player item.1
      have h3 := hexact v.player item.1
      rw [hsum] at h3
      simp only [if_true, and_self] at h1 h2 h3
      omega
    · have h1 := hle p e
      have h2 := htotal p e
      have h3 := hstep p e
      have h4 := hexact p e
      rw [hsum] at h4
      omega
    · have h1 := hfit.2 hcond.2 p e
      have h2 := htotal p e
      rw [hall.2 hcond.1] at h2
      rw [h1, h2, hsum, Nat.add_assoc, Nat.add_left_cancel_iff, Nat.add_right_cancel_iff]
      by_cases hp : p = v.player
      · by_cases he : e = item.1
        · rw [if_pos ⟨hp, he⟩, if_pos hp, if_pos he.symm]
        · rw [if_neg fun hno => he hno.2, if_pos hp, if_neg (Ne.symm he)]
      · rw [if_neg fun hno => hp hno.1, if_neg hp]

theorem fixedAt_append (qInfo : LoadedQuest) (places places' : List (Fin 4)) :
    qInfo.fixedAt (places ++ places') = qInfo.fixedAt places ++ qInfo.fixedAt places' := by
  unfold LoadedQuest.fixedAt
  rw [List.filter_append, List.map_append]

theorem unitsIn_rewards (reward : Fin 6) (e : Nat) :
    unitsIn (qInfo.rewards reward) e = unitsIn (qInfo.counted reward) e +
      unitsIn (qInfo.fixedAt ((List.finRange 4).drop qInfo.rewItemsCount)) e := by
  have hchosen : (if 0 < qInfo.rewChoiceItemsCount then qInfo.chosen reward else []) = qInfo.chosen reward := by
    by_cases hid : qInfo.rewChoiceItemId reward = 0
    · have hnone : qInfo.chosen reward = [] := if_pos hid
      rw [hnone, ite_self]
    · rw [if_pos (qInfo.choice_counted reward hid)]
  have hfixed := fixedAt_append qInfo ((List.finRange 4).take qInfo.rewItemsCount)
    ((List.finRange 4).drop qInfo.rewItemsCount)
  rw [List.take_append_drop] at hfixed
  unfold LoadedQuest.rewards LoadedQuest.counted
  rw [hchosen, hfixed, unitsIn_append, unitsIn_append, unitsIn_append, Nat.add_assoc]

theorem counted_lt (qInfo : LoadedQuest) (reward : Fin 6) : ∀ item ∈ qInfo.counted reward, item.2 < 4294967296 := by
  intro item hitem
  unfold LoadedQuest.counted at hitem
  rcases List.mem_append.1 hitem with hitem | hitem
  · split at hitem
    · unfold LoadedQuest.chosen at hitem
      split at hitem
      · cases hitem
      · rw [List.mem_singleton.1 hitem]
        exact qInfo.choiceCount_lt reward
    · cases hitem
  · obtain ⟨i, -, rfl⟩ := List.mem_map.1 hitem
    exact qInfo.rewCount_lt i

theorem getRewOrReqMoney_ge : -2147483648 ≤ qInfo.getRewOrReqMoney v := by
  unfold LoadedQuest.getRewOrReqMoney
  split
  · exact qInfo.money_ge
  · exact v.dropMoney_ge _ qInfo.money_ge

theorem purse_lt (hm : s.money < 4294967296) : s.purse v qInfo < 4294967296 := by
  unfold purse
  split
  · exact hm
  · exact modifyMoney_lt _ _

/-- **A reward is handed out in full** just if all is there at its turn. -/
theorem rewarded_iff (hin : s.holdings.InOrder om) (hm : s.money < 4294967296) (reward : Fin 6) :
    s.Rewarded om v qInfo reward (s.rewardQuest om v qInfo reward) ↔ s.Rewardable om v qInfo reward := by
  obtain ⟨htaken, hkeeps⟩ := takesExactly_iff (v := v) qInfo.required hin
  have hmoney := fun hneg : qInfo.getRewOrReqMoney v < 0 =>
    modifyMoney_take_iff (s.purse v qInfo) _ (purse_lt hm) hneg getRewOrReqMoney_ge
  constructor
  · intro hr
    have hcovered := htaken.1 hr.taken
    obtain ⟨hle, hfit⟩ := giveItems_spec (v := v) (hkeeps hcovered) (counted_lt qInfo reward)
    have hgap : ∀ e, unitsIn (qInfo.fixedAt ((List.finRange 4).drop qInfo.rewItemsCount)) e = 0 := by
      intro e
      have hmost := hle v.player e
      have hgiven := hr.given v.player e
      rw [unitsIn_rewards] at hgiven
      rw [if_pos rfl] at hmost hgiven
      have hgiven' : ((qInfo.counted reward).foldl (giveItem om v) (s.withoutRequired om v qInfo)).shelf.total
        v.player e = _ := hgiven
      unfold withoutRequired at hgiven'
      omega
    refine ⟨hcovered, hfit.1 fun p e => ?_, unitsIn_eq_zero_iff.1 hgap, fun hneg => (hmoney hneg).1 (hr.money hneg)⟩
    have hgiven := hr.given p e
    rw [unitsIn_rewards, hgap, Nat.add_zero] at hgiven
    exact hgiven
  · intro hr
    obtain ⟨-, hfit⟩ := giveItems_spec (v := v) (hkeeps hr.covered) (counted_lt qInfo reward)
    refine ⟨htaken.2 hr.covered, fun p e => ?_, fun hneg => (hmoney hneg).2 (hr.funds hneg), ?_⟩
    · rw [unitsIn_rewards, unitsIn_eq_zero_iff.2 hr.noGap, Nat.add_zero]
      exact hfit.2 hr.fits p e
    · unfold rewardQuest
      dsimp only
      rw [Function.update_self]

end

/-! ## Top theorem -/

/-- **The items of a reward** are taken and given in full just if all that the check lets pass is there at its
turn: the required items, and room for the reward items. -/
theorem rewardQuest_exact_iff (om : ObjectMgr) (v : RewardView) (s : QuestTaker) (r : ChooseReward)
    (hin : s.holdings.InOrder om) (hm : s.money < 4294967296) :
    s.AnswersInFull om v r ↔ ∀ qInfo reward, asked v r = some (qInfo, reward) →
      s.canRewardQuest om v qInfo reward = true → s.Rewardable om v qInfo reward := by
  unfold AnswersInFull handleQuestgiverChooseReward
  cases hasked : asked v r with
  | none => exact iff_of_true rfl fun _ _ h => nomatch h
  | some asked =>
    obtain ⟨qInfo, reward⟩ := asked
    dsimp only
    by_cases hcan : s.canRewardQuest om v qInfo reward = true
    · rw [if_pos hcan, if_pos hcan, rewarded_iff hin hm reward]
      constructor
      · rintro hr _ _ ⟨⟩ -
        exact hr
      · exact fun h => h qInfo reward rfl hcan
    · rw [if_neg hcan]
      refine iff_of_true (if_neg hcan) ?_
      rintro _ _ ⟨⟩ hyes
      exact absurd hyes hcan

/-! ### One free slot -/

/-- The backpack of player 1 is full, but for its last slot. -/
def nearlyFull : Holdings where
  nextGuid := 38
  items g := if 23 ≤ g ∧ g < 38 then { live := true, entry := 4, count := 20, owner := 1, slot := g } else {}
  slots p q := if p = 1 ∧ 23 ≤ q ∧ q < 38 then some q else none

theorem nearlyFull_inOrder : nearlyFull.InOrder Holdings.sampleMgr := by
  have hslots : ∀ p q i, nearlyFull.shelf.slots p q = some i → p = 1 ∧ i = q ∧ 23 ≤ q ∧ q < 38 := by
    intro p q i hs
    simp only [Holdings.shelf, nearlyFull] at hs
    split at hs
    · next hin => exact ⟨hin.1, (Option.some.inj hs).symm, hin.2⟩
    · cases hs
  have hgoods : ∀ g, 23 ≤ g → g < 38 → nearlyFull.items g =
      { live := true, entry := 4, count := 20, owner := 1, slot := g } := by
    intro g hlo hhi
    exact if_pos ⟨hlo, hhi⟩
  refine ⟨Shelf.orderly_of_empty _ (fun i j => ?_) (fun i => ?_) fun p q i hs => ?_, fun p q i hbag hs => ?_,
    fun p q i hs => ?_⟩
  · simp only [Holdings.shelf, nearlyFull, Item.goods]
    split <;> rfl
  · simp only [Holdings.shelf, nearlyFull, Item.goods]
    split <;> rfl
  · obtain ⟨rfl, rfl, hlo, hhi⟩ := hslots p q i hs
    have hself : nearlyFull.shelf.goods i =
        ({ live := true, entry := 4, count := 20, owner := 1, slot := i } : Item).goods :=
      congrArg Item.goods (hgoods i hlo hhi)
    refine ⟨hhi, ?_⟩
    rw [if_pos ((isOwnSlot_iff i).2 (.inl (by omega)))]
    refine ⟨⟨by rw [hself]; rfl, hhi, _, by rw [hself]; rfl, ?_⟩, by rw [hself]; rfl, by rw [hself]; rfl⟩
    rw [hself]
    exact ⟨(by decide : 0 < 20), (by decide : 20 ≤ 20), rfl⟩
  · obtain ⟨-, -, hlo, hhi⟩ := hslots p q i hs
    rw [isBagSlot_iff] at hbag
    omega
  · obtain ⟨-, rfl, hlo, hhi⟩ := hslots p q i hs
    simp only [Holdings.shelf, hgoods i hlo hhi, Item.goods]
    rfl

/-- A ring and a bag. -/
def ringAndBag : LoadedQuest :=
  loadQuest Holdings.sampleMgr { questId := 7, rewItemId := ![2, 5, 0, 0], rewItemCount := ![1, 1, 0, 0] }

def nearlyFullView : RewardView where
  player := 1
  getQuestTemplate quest := if quest = 7 then some ringAndBag else none

def nearlyFullTaker : QuestTaker where
  holdings := nearlyFull
  questStatus quest := if quest = 7 then { status := .complete } else {}

/-- The check lets both items pass, as there is room for each; the bag finds none after the ring. -/
theorem reward_passed_over : ¬ nearlyFullTaker.AnswersInFull Holdings.sampleMgr nearlyFullView ⟨0, 7, 0⟩ := by
  have hcan : nearlyFullTaker.canRewardQuest Holdings.sampleMgr nearlyFullView ringAndBag 0 = true := by decide
  have hnotFit : ¬ RewardsFit Holdings.sampleMgr nearlyFullView
      (nearlyFullTaker.withoutRequired Holdings.sampleMgr nearlyFullView ringAndBag) (ringAndBag.counted 0) := by
    decide
  have hasked : asked nearlyFullView ⟨0, 7, 0⟩ = some (ringAndBag, 0) := rfl
  intro hanswers
  unfold AnswersInFull handleQuestgiverChooseReward at hanswers
  rw [hasked] at hanswers
  dsimp only at hanswers
  rw [if_pos hcan, if_pos hcan] at hanswers
  exact hnotFit ((rewarded_iff nearlyFull_inOrder (by decide) 0).1 hanswers).fits

theorem rewardQuest_exact_iff_sample :
    nearlyFullTaker.AnswersInFull Holdings.sampleMgr nearlyFullView ⟨0, 7, 0⟩ ↔
      ∀ qInfo reward, asked nearlyFullView ⟨0, 7, 0⟩ = some (qInfo, reward) →
        nearlyFullTaker.canRewardQuest Holdings.sampleMgr nearlyFullView qInfo reward = true →
          nearlyFullTaker.Rewardable Holdings.sampleMgr nearlyFullView qInfo reward :=
  rewardQuest_exact_iff Holdings.sampleMgr nearlyFullView nearlyFullTaker ⟨0, 7, 0⟩ nearlyFull_inOrder (by decide)

end QuestTaker

end BlizzLike
