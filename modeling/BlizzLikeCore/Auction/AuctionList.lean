import BlizzLikeCore.Auction.AuctionHouse
import Mathlib.Data.List.Infix
import Mathlib.Order.Interval.Finset.Nat

/-!
# Searching the auctions

`BuildListAuctionItems` walks the auctions of a house once.  It passes over those that a filter of the search
excludes, counts the others, and writes 50 of them from a position on.  Two things make it pass over more: the
highest level is looked at only when there is a lowest one, and who has no name is not listed
(`listed_iff`).

    buildListAuctionItems_eq : what the walk writes and counts
    pages_flatMap            : the pages of a list make up the list
-/

namespace BlizzLike

/-! ## Items on auction -/

/-- What is read of a prototype. -/
structure AuctionPrototype extends ItemTemplate where
  name1 : List UInt8 := []
  quality : Nat := 0
  requiredLevel : Nat := 0
  allowableClass : Nat := 0
  allowableRace : Nat := 0
  requiredSkill : Nat := 0
  requiredSkillRank : Nat := 0
  requiredSpell : Nat := 0
  requiredReputationFaction : Nat := 0
  requiredReputationRank : Nat := 0

/-- What is read of an item. -/
structure AuctionItem where
  proto : AuctionPrototype
  soulBound : Bool := false
  ownerGuid : Nat := 0
  /-- `GetEnchantmentId`, `GetEnchantmentDuration`, `GetEnchantmentCharges` by slot. -/
  enchantment : Nat → Nat × Nat × Nat := fun _ => (0, 0, 0)
  randomPropertyId : BitVec 32 := 0
  suffixFactor : Nat := 0
  count : Nat := 0
  spellCharges : BitVec 32 := 0

/-- The auctions of a house by id; these start at 1. -/
structure AuctionsMap where
  entries : List AuctionEntry
  sorted : entries.Pairwise fun a b => a.id < b.id
  ids : ∀ a ∈ entries, 0 < a.id ∧ a.id < 4294967296

/-- The player who searches, the clock, the items on auction and the tables of names. -/
structure AuctionSearcher where
  time : Nat := 0
  getAItem : Nat → Option AuctionItem
  guid : Nat := 0
  isAlive : Bool := true
  classMask : Nat := 0
  raceMask : Nat := 0
  level : Nat := 0
  getSkillValue : Nat → Nat := fun _ => 0
  hasSpell : Nat → Bool := fun _ => false
  getReputationRank : Nat → Nat := fun _ => 0
  /-- `GetSessionDbLocaleIndex`, when it is not negative. -/
  locIdx : Option Nat := none
  getItemLocale : Nat → Option (List (List UInt8)) := fun _ => none
  utf8ToWStr : List UInt8 → Option (List Nat)

/-- What is searched for. -/
structure AuctionSearch where
  searchedname : List Nat := []
  levelmin : Nat := 0
  levelmax : Nat := 0
  usable : Nat := 0
  inventoryType : Nat := 0xffffffff
  itemClass : Nat := 0xffffffff
  itemSubClass : Nat := 0xffffffff
  quality : Nat := 0xffffffff

/-! ## Names -/

def wcharToLower (c : Nat) : Nat :=
  if 65 ≤ c ∧ c ≤ 90 then c + 0x20
  else if 0xC0 ≤ c ∧ c ≤ 0xD6 then c + 0x20
  else if 0xD8 ≤ c ∧ c ≤ 0xDE then c + 0x20
  else if 0x100 ≤ c ∧ c ≤ 0x12E ∧ c % 2 = 0 then c + 1
  else if c = 0x1E9E then 0xDF
  else if c = 0x401 then 0x451
  else if 0x410 ≤ c ∧ c ≤ 0x42F then c + 0x20
  else c

namespace AuctionSearcher

variable (v : AuctionSearcher)

def utf8FitTo (str : List UInt8) (search : List Nat) : Bool :=
  match v.utf8ToWStr str with
  | none => false
  | some temp => decide (search <:+: temp.map wcharToLower)

/-- The name in the player's language, or else `Name1`. -/
def localName (proto : AuctionPrototype) : List UInt8 :=
  match v.locIdx with
  | none => proto.name1
  | some locIdx =>
    match v.getItemLocale proto.itemId with
    | none => proto.name1
    | some names => if names.getD locIdx [] ≠ [] then names.getD locIdx [] else proto.name1

end AuctionSearcher

/-! ## Use -/

/-- The `EQUIP_ERR_*` codes of `CanUseItem`. -/
inductive UseErr where
  | ok
  | youAreDead
  | dontOwnThatItem
  | youCanNeverUseThatItem
  | noRequiredProficiency
  | errCantEquipSkill
  | cantEquipReputation
  | cantEquipLevelI
  deriving DecidableEq, Repr

def itemWeaponSkills : List Nat :=
  [44, 172, 45, 46, 54, 160, 229, 43, 55, 0, 136, 0, 0, 473, 0, 173, 176, 253, 226, 228, 356]

def itemArmorSkills : List Nat := [0, 415, 414, 413, 293, 0, 433, 0, 0, 0]

def AuctionItem.getSkill (item : AuctionItem) : Nat :=
  if item.proto.class_ = 2 then itemWeaponSkills.getD item.proto.subClass 0
  else if item.proto.class_ = 4 then itemArmorSkills.getD item.proto.subClass 0
  else 0

def AuctionSearcher.canUseItem (v : AuctionSearcher) (item : AuctionItem) : UseErr :=
  let proto := item.proto
  if v.isAlive = false then .youAreDead
  else if item.soulBound = true ∧ item.ownerGuid ≠ v.guid then .dontOwnThatItem
  else if hasFlag proto.allowableClass v.classMask = false ∨ hasFlag proto.allowableRace v.raceMask = false then
    .youCanNeverUseThatItem
  else if item.getSkill ≠ 0 ∧ v.getSkillValue item.getSkill = 0 then .noRequiredProficiency
  else if proto.requiredSkill ≠ 0 ∧ v.getSkillValue proto.requiredSkill = 0 then .noRequiredProficiency
  else if proto.requiredSkill ≠ 0 ∧ v.getSkillValue proto.requiredSkill < proto.requiredSkillRank then
    .errCantEquipSkill
  else if proto.requiredSpell ≠ 0 ∧ v.hasSpell proto.requiredSpell = false then .noRequiredProficiency
  else if proto.requiredReputationFaction ≠ 0 ∧
      v.getReputationRank proto.requiredReputationFaction < proto.requiredReputationRank then .cantEquipReputation
  else if v.level < proto.requiredLevel then .cantEquipLevelI
  else .ok

/-! ## The list -/

def maxInspectedEnchantmentSlot : Nat := 6

/-- What is written for an auction. -/
structure AuctionInfo where
  id : Nat
  entry : Nat
  enchantments : List (Nat × Nat × Nat)
  randomPropertyId : BitVec 32
  suffixFactor : Nat
  count : Nat
  spellCharges : BitVec 32
  owner : Nat
  startbid : Nat
  outbid : Nat
  buyout : Nat
  timeLeft : Nat
  bidder : Nat
  bid : Nat
  deriving DecidableEq

/-- The packet as it grows, and the two numbers. -/
structure AuctionListing where
  data : List AuctionInfo := []
  count : Nat := 0
  totalcount : Nat := 0

section Search

variable (v : AuctionSearcher) (search : AuctionSearch)

/-- `BuildAuctionInfo`: nothing is written without the item. -/
def AuctionEntry.buildAuctionInfo (a : AuctionEntry) : Option AuctionInfo :=
  (v.getAItem a.itemGuidlow).map fun item =>
    { id := a.id
      entry := item.proto.itemId
      enchantments := (List.range maxInspectedEnchantmentSlot).map item.enchantment
      randomPropertyId := item.randomPropertyId
      suffixFactor := item.suffixFactor
      count := item.count
      spellCharges := item.spellCharges
      owner := a.owner
      startbid := a.startbid
      outbid := if a.bid ≠ 0 then a.getAuctionOutBid else 0
      buyout := a.buyout
      timeLeft := u32 (sub32 (u32 a.expireTime) (u32 v.time) * 1000)
      bidder := a.bidder
      bid := a.bid }

/-- The walk comes to an auction that it does not pass over. -/
def AuctionSearch.passes (a : AuctionEntry) : Bool :=
  match v.getAItem a.itemGuidlow with
  | none => false
  | some item =>
    let proto := item.proto
    if search.itemClass ≠ 0xffffffff ∧ proto.class_ ≠ search.itemClass then false
    else if search.itemSubClass ≠ 0xffffffff ∧ proto.subClass ≠ search.itemSubClass then false
    else if search.inventoryType ≠ 0xffffffff ∧ proto.inventoryType ≠ search.inventoryType then false
    else if search.quality ≠ 0xffffffff ∧ proto.quality < search.quality then false
    else if search.levelmin ≠ 0 ∧ (proto.requiredLevel < search.levelmin ∨
      search.levelmax ≠ 0 ∧ proto.requiredLevel > search.levelmax) then false
    else if search.usable ≠ 0 ∧ v.canUseItem item ≠ .ok then false
    else if proto.name1 = [] then false
    else if search.searchedname ≠ [] ∧ v.utf8FitTo (v.localName proto) search.searchedname = false then false
    else true

/-- One auction of the walk. -/
def AuctionListing.visit (listfrom : Nat) (r : AuctionListing) (a : AuctionEntry) : AuctionListing :=
  if search.passes v a then
    if r.count < 50 ∧ r.totalcount ≥ listfrom then
      { data := r.data ++ (a.buildAuctionInfo v).toList
        count := u32 (r.count + 1)
        totalcount := u32 (r.totalcount + 1) }
    else { r with totalcount := u32 (r.totalcount + 1) }
  else r

def AuctionsMap.buildListAuctionItems (m : AuctionsMap) (listfrom : Nat) : AuctionListing :=
  m.entries.foldl (AuctionListing.visit v search listfrom) {}

end Search

/-! ## What should be listed -/

section Law

variable (v : AuctionSearcher) (search : AuctionSearch)

/-- An item fits the filters that are not wildcards; those for the highest level and the name stand apart. -/
structure AuctionSearch.FitsLow (item : AuctionItem) : Prop where
  itemClass : search.itemClass ≠ 0xffffffff → item.proto.class_ = search.itemClass
  itemSubClass : search.itemSubClass ≠ 0xffffffff → item.proto.subClass = search.itemSubClass
  inventoryType : search.inventoryType ≠ 0xffffffff → item.proto.inventoryType = search.inventoryType
  quality : search.quality ≠ 0xffffffff → search.quality ≤ item.proto.quality
  levelmin : search.levelmin ≠ 0 → search.levelmin ≤ item.proto.requiredLevel
  usable : search.usable ≠ 0 → v.canUseItem item = .ok
  searchedname : search.searchedname ≠ [] → v.utf8FitTo (v.localName item.proto) search.searchedname = true

/-- Its level is not above the highest. -/
def AuctionSearch.FitsHigh (item : AuctionItem) : Prop :=
  search.levelmax ≠ 0 → item.proto.requiredLevel ≤ search.levelmax

/-- An auction satisfies every filter that is not a wildcard. -/
def AuctionSearch.Fits (a : AuctionEntry) : Prop :=
  ∃ item, v.getAItem a.itemGuidlow = some item ∧ search.FitsLow v item ∧ search.FitsHigh item

open Classical in
/-- The auctions that do, by id. -/
noncomputable def AuctionsMap.matching (m : AuctionsMap) : List AuctionEntry :=
  m.entries.filter fun a => decide (search.Fits v a)

/-- **The law** for a search: a page has the 50 from a position on, the numbers are right, and the pages one after
the other have them all. -/
structure AuctionsMap.Listed (m : AuctionsMap) : Prop where
  page : ∀ listfrom, (m.buildListAuctionItems v search listfrom).data.map some =
    (((m.matching v search).drop listfrom).take 50).map (AuctionEntry.buildAuctionInfo v)
  count : ∀ listfrom, (m.buildListAuctionItems v search listfrom).count =
    (m.buildListAuctionItems v search listfrom).data.length
  totalcount : ∀ listfrom, (m.buildListAuctionItems v search listfrom).totalcount = (m.matching v search).length
  pages : ∀ k, (m.matching v search).length ≤ 50 * k →
    ((List.range k).flatMap fun n => (m.buildListAuctionItems v search (50 * n)).data.map some) =
      (m.matching v search).map (AuctionEntry.buildAuctionInfo v)

/-- **The condition**: of the auctions that fit none is without a name, and without a lowest level there is no
highest one, or nothing above it that fits otherwise and has a name. -/
structure AuctionsMap.Plain (m : AuctionsMap) : Prop where
  named : ∀ a ∈ m.entries, ∀ item, v.getAItem a.itemGuidlow = some item → search.FitsLow v item →
    search.FitsHigh item → item.proto.name1 ≠ []
  high : search.levelmin = 0 → ∀ a ∈ m.entries, ∀ item, v.getAItem a.itemGuidlow = some item →
    search.FitsLow v item → item.proto.name1 ≠ [] → search.FitsHigh item

end Law

variable {v : AuctionSearcher} {search : AuctionSearch} {m : AuctionsMap}

/-! ## The walk -/

theorem AuctionSearch.passes_iff (a : AuctionEntry) : search.passes v a = true ↔
    ∃ item, v.getAItem a.itemGuidlow = some item ∧ search.FitsLow v item ∧ item.proto.name1 ≠ [] ∧
      (search.levelmin ≠ 0 → search.FitsHigh item) := by
  unfold passes
  cases v.getAItem a.itemGuidlow with
  | none => exact iff_of_false (fun h => nomatch h) fun ⟨_, h, _⟩ => nomatch h
  | some item =>
    have hsome : (∃ item', some item = some item' ∧ search.FitsLow v item' ∧ item'.proto.name1 ≠ [] ∧
        (search.levelmin ≠ 0 → search.FitsHigh item')) ↔ search.FitsLow v item ∧ item.proto.name1 ≠ [] ∧
          (search.levelmin ≠ 0 → search.FitsHigh item) :=
      ⟨fun ⟨_, he, h⟩ => Option.some.inj he ▸ h, fun h => ⟨item, rfl, h⟩⟩
    rw [hsome]
    dsimp only
    constructor
    · intro h
      split at h
      · cases h
      next hclass =>
      split at h
      · cases h
      next hsub =>
      split at h
      · cases h
      next hinv =>
      split at h
      · cases h
      next hquality =>
      split at h
      · cases h
      next hlevel =>
      split at h
      · cases h
      next husable =>
      split at h
      · cases h
      next hname =>
      split at h
      · cases h
      next hfit =>
      refine ⟨⟨fun hw => ?_, fun hw => ?_, fun hw => ?_, fun hw => ?_, fun hw => ?_, fun hw => ?_, fun hw => ?_⟩, hname,
        fun hmin hmax => ?_⟩
      · exact not_not.1 fun hne => hclass ⟨hw, hne⟩
      · exact not_not.1 fun hne => hsub ⟨hw, hne⟩
      · exact not_not.1 fun hne => hinv ⟨hw, hne⟩
      · exact Nat.le_of_not_lt fun hlt => hquality ⟨hw, hlt⟩
      · exact Nat.le_of_not_lt fun hlt => hlevel ⟨hw, .inl hlt⟩
      · exact not_not.1 fun hne => husable ⟨hw, hne⟩
      · exact Bool.of_not_eq_false fun hne => hfit ⟨hw, hne⟩
      · exact Nat.le_of_not_lt fun hlt => hlevel ⟨hmin, .inr ⟨hmax, hlt⟩⟩
    · rintro ⟨hlow, hname, hhigh⟩
      rw [if_neg fun h => h.2 (hlow.itemClass h.1), if_neg fun h => h.2 (hlow.itemSubClass h.1),
        if_neg fun h => h.2 (hlow.inventoryType h.1), if_neg fun h => Nat.not_lt.2 (hlow.quality h.1) h.2, if_neg ?_,
        if_neg fun h => h.2 (hlow.usable h.1), if_neg hname, if_neg ?_]
      · rintro ⟨hw, hfit⟩
        rw [hlow.searchedname hw] at hfit
        cases hfit
      · rintro ⟨hmin, hlt | ⟨hmax, hgt⟩⟩
        · exact Nat.not_lt.2 (hlow.levelmin hmin) hlt
        · exact Nat.not_lt.2 (hhigh hmin hmax) hgt

theorem AuctionSearch.info_of_passes {a : AuctionEntry} (h : search.passes v a = true) :
    ∃ info, a.buildAuctionInfo v = some info ∧ info.id = a.id := by
  obtain ⟨item, hitem, -⟩ := passes_iff a |>.1 h
  unfold AuctionEntry.buildAuctionInfo
  rw [hitem]
  exact ⟨_, rfl, rfl⟩

/-- **The walk** from a state on: the rest of the page is written, and both numbers grow. -/
theorem foldl_visit (listfrom : Nat) (as : List AuctionEntry) (r : AuctionListing)
    (htotal : r.totalcount + as.length < 4294967296) (hcount : r.count ≤ 50) :
    let page := ((as.filter (search.passes v)).drop (listfrom - r.totalcount)).take (50 - r.count)
    let t := as.foldl (AuctionListing.visit v search listfrom) r
    t.data.map some = r.data.map some ++ page.map (AuctionEntry.buildAuctionInfo v) ∧
      t.count = r.count + page.length ∧ t.totalcount = r.totalcount + (as.filter (search.passes v)).length := by
  induction as generalizing r with
  | nil => simp
  | cons a as ih =>
    rw [List.length_cons] at htotal
    rw [List.foldl_cons]
    cases hp : search.passes v a with
    | false =>
      have hvisit : AuctionListing.visit v search listfrom r a = r := by
        unfold AuctionListing.visit
        rw [hp]
        rfl
      rw [hvisit, List.filter_cons_of_neg (by rw [hp]; exact Bool.false_ne_true)]
      exact ih r (by omega) hcount
    | true =>
      have hnext : u32 (r.totalcount + 1) = r.totalcount + 1 := u32_eq _ (by omega)
      rw [List.filter_cons_of_pos hp]
      by_cases hwrite : r.count < 50 ∧ r.totalcount ≥ listfrom
      · obtain ⟨info, hinfo, -⟩ := search.info_of_passes hp
        have hvisit : AuctionListing.visit v search listfrom r a =
            { data := r.data ++ [info], count := r.count + 1, totalcount := r.totalcount + 1 } := by
          unfold AuctionListing.visit
          rw [hp, if_pos rfl, if_pos hwrite, hinfo, hnext, u32_eq _ (by omega)]
          rfl
        obtain ⟨hdata, hc, ht⟩ := ih { data := r.data ++ [info], count := r.count + 1, totalcount := r.totalcount + 1 }
          (by dsimp only; omega) (by dsimp only; omega)
        dsimp only at hdata hc ht ⊢
        have hskip : listfrom - (r.totalcount + 1) = 0 := by omega
        have hskip0 : listfrom - r.totalcount = 0 := by omega
        have hroom : 50 - r.count = (50 - (r.count + 1)) + 1 := by omega
        rw [hskip, List.drop_zero] at hdata hc
        rw [hvisit, hskip0, List.drop_zero, hroom, List.take_succ_cons, hdata, hc, ht]
        refine ⟨?_, ?_, ?_⟩
        · rw [List.map_append, List.map_singleton, List.append_assoc, List.map_cons, hinfo]
          rfl
        · rw [List.length_cons]
          omega
        · rw [List.length_cons]
          omega
      · have hvisit : AuctionListing.visit v search listfrom r a = { r with totalcount := r.totalcount + 1 } := by
          unfold AuctionListing.visit
          rw [hp, if_pos rfl, if_neg hwrite, hnext]
        obtain ⟨hdata, hc, ht⟩ := ih { r with totalcount := r.totalcount + 1 } (by dsimp only; omega) hcount
        have hpage : ((a :: as.filter (search.passes v)).drop (listfrom - r.totalcount)).take (50 - r.count) =
            ((as.filter (search.passes v)).drop (listfrom - (r.totalcount + 1))).take (50 - r.count) := by
          by_cases hfull : r.count < 50
          · rw [show listfrom - r.totalcount = (listfrom - (r.totalcount + 1)) + 1 by omega, List.drop_succ_cons]
          · rw [show 50 - r.count = 0 by omega, List.take_zero, List.take_zero]
        dsimp only at hdata hc ht ⊢
        rw [hvisit, hpage, hdata, hc, ht, List.length_cons]
        exact ⟨rfl, rfl, by omega⟩

/-! ## The list of a house -/

namespace AuctionsMap

theorem ids_nodup (m : AuctionsMap) : (m.entries.map AuctionEntry.id).Nodup := by
  refine List.Pairwise.imp (fun hlt => Nat.ne_of_lt hlt) ?_
  exact List.pairwise_map.2 m.sorted

theorem length_lt (m : AuctionsMap) : m.entries.length < 4294967296 := by
  have hsub : (m.entries.map AuctionEntry.id).toFinset ⊆ Finset.Ioo 0 4294967296 := by
    intro id hid
    obtain ⟨a, ha, rfl⟩ := List.mem_map.1 (List.mem_toFinset.1 hid)
    exact Finset.mem_Ioo.2 (m.ids a ha)
  have hcard := Finset.card_le_card hsub
  rw [List.toFinset_card_of_nodup m.ids_nodup, List.length_map, Nat.card_Ioo] at hcard
  omega

theorem eq_of_id {a b : AuctionEntry} (ha : a ∈ m.entries) (hb : b ∈ m.entries) (h : a.id = b.id) : a = b :=
  List.inj_on_of_nodup_map m.ids_nodup ha hb h

/-- **What the walk writes and counts.** -/
theorem buildListAuctionItems_eq (m : AuctionsMap) (listfrom : Nat) :
    let page := ((m.entries.filter (search.passes v)).drop listfrom).take 50
    let r := m.buildListAuctionItems v search listfrom
    r.data.map some = page.map (AuctionEntry.buildAuctionInfo v) ∧ r.count = page.length ∧
      r.totalcount = (m.entries.filter (search.passes v)).length := by
  have hlen := m.length_lt
  obtain ⟨hdata, hcount, htotal⟩ := @foldl_visit v search listfrom m.entries {}
    (by dsimp only; omega) (Nat.zero_le 50)
  dsimp only at hdata hcount htotal ⊢
  rw [List.map_nil, List.nil_append] at hdata
  rw [Nat.zero_add] at hcount htotal
  exact ⟨hdata, hcount, htotal⟩

/-- **Pages** one after the other make up the list as far as they go. -/
theorem pages_flatMap {α : Type*} (l : List α) (size k : Nat) :
    ((List.range k).flatMap fun n => (l.drop (size * n)).take size) = l.take (size * k) := by
  induction k with
  | zero => rw [Nat.mul_zero, List.take_zero]; rfl
  | succ k ih => rw [List.range_succ, List.flatMap_append, ih, List.flatMap_singleton, Nat.mul_succ, List.take_add]

theorem pages_eq (m : AuctionsMap) {k : Nat} (hk : (m.entries.filter (search.passes v)).length ≤ 50 * k) :
    ((List.range k).flatMap fun n => (m.buildListAuctionItems v search (50 * n)).data.map some) =
      (m.entries.filter (search.passes v)).map (AuctionEntry.buildAuctionInfo v) := by
  have hpage : ∀ n, (m.buildListAuctionItems v search (50 * n)).data.map some =
      (((m.entries.filter (search.passes v)).map (AuctionEntry.buildAuctionInfo v)).drop (50 * n)).take 50 := by
    intro n
    rw [(buildListAuctionItems_eq m (50 * n)).1, List.map_take, List.map_drop]
  simp only [hpage]
  rw [pages_flatMap, List.take_of_length_le (by rw [List.length_map]; exact hk)]

open Classical in
theorem mem_matching {a : AuctionEntry} : a ∈ m.matching v search ↔ a ∈ m.entries ∧ search.Fits v a := by
  unfold matching
  rw [List.mem_filter, decide_eq_true_eq]

theorem matching_length_le : (m.matching v search).length ≤ m.entries.length := List.length_filter_le _ _

theorem id_of_info {a b : AuctionEntry} {info : AuctionInfo} (ha : a.buildAuctionInfo v = some info)
    (hb : b.buildAuctionInfo v = some info) : a.id = b.id := by
  have hid : ∀ c : AuctionEntry, c.buildAuctionInfo v = some info → info.id = c.id := by
    intro c hc
    obtain ⟨item, -, rfl⟩ := Option.map_eq_some_iff.1 hc
    rfl
  rw [← hid a ha, hid b hb]

theorem info_of_fits {a : AuctionEntry} (h : search.Fits v a) : ∃ info, a.buildAuctionInfo v = some info := by
  obtain ⟨item, hitem, -⟩ := h
  unfold AuctionEntry.buildAuctionInfo
  rw [hitem]
  exact ⟨_, rfl⟩

open Classical in
/-- **The list is right** just when the walk passes over the auctions that do not fit. -/
theorem listed_iff_passes : m.Listed v search ↔ ∀ a ∈ m.entries, search.passes v a = true ↔ search.Fits v a := by
  constructor
  · intro h a ha
    -- all pages together show which auctions were written
    have hall : (m.entries.filter (search.passes v)).map (AuctionEntry.buildAuctionInfo v) =
        (m.matching v search).map (AuctionEntry.buildAuctionInfo v) := by
      have hfits := h.pages m.entries.length (matching_length_le.trans (by omega))
      rw [← hfits]
      exact (pages_eq m ((List.length_filter_le _ _).trans (by omega))).symm
    constructor
    · intro hp
      obtain ⟨info, hinfo, -⟩ := search.info_of_passes hp
      have hmem : a.buildAuctionInfo v ∈ (m.entries.filter (search.passes v)).map (AuctionEntry.buildAuctionInfo v) :=
        List.mem_map_of_mem (List.mem_filter.2 ⟨ha, hp⟩)
      rw [hall] at hmem
      obtain ⟨b, hb, heq⟩ := List.mem_map.1 hmem
      obtain ⟨hbm, hfits⟩ := mem_matching.1 hb
      rwa [← eq_of_id hbm ha (id_of_info (heq.trans hinfo) hinfo)]
    · intro hfits
      obtain ⟨info, hinfo⟩ := info_of_fits hfits
      have hmem : a.buildAuctionInfo v ∈ (m.matching v search).map (AuctionEntry.buildAuctionInfo v) :=
        List.mem_map_of_mem (mem_matching.2 ⟨ha, hfits⟩)
      rw [← hall] at hmem
      obtain ⟨b, hb, heq⟩ := List.mem_map.1 hmem
      obtain ⟨hbm, hp⟩ := List.mem_filter.1 hb
      rwa [← eq_of_id hbm ha (id_of_info (heq.trans hinfo) hinfo)]
  · intro h
    have hfilter : m.entries.filter (search.passes v) = m.matching v search := by
      unfold matching
      refine List.filter_congr fun a ha => ?_
      rw [Bool.eq_iff_iff, decide_eq_true_eq]
      exact h a ha
    refine ⟨fun listfrom => ?_, fun listfrom => ?_, fun listfrom => ?_, fun k hk => ?_⟩
    · rw [← hfilter]
      exact (buildListAuctionItems_eq m listfrom).1
    · obtain ⟨hdata, hcount, -⟩ := @buildListAuctionItems_eq v search m listfrom
      have hlen := congrArg List.length hdata
      rw [List.length_map, List.length_map] at hlen
      rw [hcount, hlen]
    · rw [← hfilter]
      exact (buildListAuctionItems_eq m listfrom).2.2
    · rw [← hfilter] at hk ⊢
      exact pages_eq m hk

/-- **A search lists what fits**, on every page and with the right numbers, just under the condition. -/
theorem listed_iff (v : AuctionSearcher) (search : AuctionSearch) (m : AuctionsMap) :
    m.Listed v search ↔ m.Plain v search := by
  rw [listed_iff_passes]
  simp only [AuctionSearch.passes_iff]
  constructor
  · intro h
    refine ⟨fun a ha item hitem hlow hhigh => ?_, fun hmin a ha item hitem hlow hname => ?_⟩
    · obtain ⟨item', hitem', -, hname, -⟩ := (h a ha).2 ⟨item, hitem, hlow, hhigh⟩
      rwa [← Option.some.inj (hitem'.symm.trans hitem)]
    · obtain ⟨item', hitem', -, hhigh⟩ := (h a ha).1 ⟨item, hitem, hlow, hname, fun hne => absurd hmin hne⟩
      rwa [← Option.some.inj (hitem'.symm.trans hitem)]
  · intro h a ha
    constructor
    · rintro ⟨item, hitem, hlow, hname, hhigh⟩
      refine ⟨item, hitem, hlow, ?_⟩
      by_cases hmin : search.levelmin = 0
      · exact h.high hmin a ha item hitem hlow hname
      · exact hhigh hmin
    · rintro ⟨item, hitem, hlow, hhigh⟩
      exact ⟨item, hitem, hlow, h.named a ha item hitem hlow hhigh, fun _ => hhigh⟩

/-! ## A search -/

/-- Somebody whose letters are bytes, and a sword for level 30. -/
def swordSearcher : AuctionSearcher where
  getAItem guid := if guid = 5 then
    some { proto := { itemId := 25, class_ := 2, subClass := 7, name1 := [0x53], requiredLevel := 30 } } else none
  utf8ToWStr str := some (str.map UInt8.toNat)

def swordAuction : AuctionEntry :=
  { id := 1, itemGuidlow := 5, itemTemplate := 25, owner := 1, startbid := 10, expireTime := 0, deposit := 0
    auctionHouseEntry := { houseId := 1, cutPercent := 5 } }

/-- The house with the sword. -/
def swordHouse : AuctionsMap where
  entries := [swordAuction]
  sorted := List.pairwise_singleton _ _
  ids a ha := by
    obtain rfl := List.mem_singleton.1 ha
    decide

/-- **The highest level is not looked at** without a lowest one: up to level 20 the sword for level 30 is listed. -/
theorem level_overlooked :
    (swordHouse.buildListAuctionItems swordSearcher { levelmax := 20 } 0).data.map AuctionInfo.id = [1] ∧
      (swordHouse.buildListAuctionItems swordSearcher { levelmax := 20 } 0).totalcount = 1 ∧
      ¬ swordHouse.Listed swordSearcher { levelmax := 20 } := by
  have hone : (swordHouse.buildListAuctionItems swordSearcher { levelmax := 20 } 0).totalcount = 1 := by decide +kernel
  refine ⟨by decide +kernel, hone, fun h => ?_⟩
  have htotal := h.totalcount 0
  rw [hone] at htotal
  obtain ⟨a, ha⟩ := List.exists_mem_of_length_pos (htotal ▸ Nat.one_pos)
  obtain ⟨hmem, item, hitem, -, hhigh⟩ := mem_matching.1 ha
  obtain rfl := List.mem_singleton.1 hmem
  cases hitem
  exact absurd (hhigh (by decide)) (by decide)

end AuctionsMap

end BlizzLike
