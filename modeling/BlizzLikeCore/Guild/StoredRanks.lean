import BlizzLikeCore.Guild.BankItems
import BlizzLikeCore.Guild.Roster
import BlizzLikeCore.Lib.Transition
import Mathlib.Data.List.Sort
import Mathlib.Data.List.GetD
import Mathlib.Logic.Function.Basic

/-!
# The ranks of a guild and their rows

The ranks of a guild are a list in memory and rows of two tables: `guild_rank`, where a rank has its
index plus one for an id, and `guild_bank_right`, where it has its index.  Every edit is made in
memory and in the rows; `LoadRanksFromDB` and `LoadBankRightsFromDB` read them back when the server
starts, the former repairing a table whose ranks are not numbered from 1.

The text column keeps what it can of a name, which is a parameter, as are the five names of the ranks
of a new guild.

Left out: the days of the members, whom an edit gives a new one, and the rows of other guilds, which
the loaders pass over.
-/

namespace BlizzLike

def guildRanksMinCount : Nat := 5

/-- `TabRight` and `TabSlotPerDay` of a rank, for one tab. -/
structure TabEntry where
  right : Nat := 0
  slotPerDay : Nat := 0
  deriving DecidableEq, Repr

/-- What the guild master has on every tab that was given to him. -/
def TabEntry.full : TabEntry := ⟨guildBankRightFull, withdrawSlotUnlimited⟩

/-- `RankInfo`, all of it. -/
structure GuildRank where
  name : String
  rights : Nat
  bankMoneyPerDay : Nat := 0
  tabs : Fin 6 → TabEntry := fun _ => {}
  deriving DecidableEq

/-- A row of `guild_rank`. -/
structure GuildRankRow where
  rid : Nat
  rname : String
  rights : Nat
  bankMoneyPerDay : Nat := 0
  deriving DecidableEq, Repr

/-- A row of `guild_bank_right`; its key is the tab and the rank. -/
structure BankRightRow where
  tabId : Nat
  rid : Nat
  gbright : Nat := 0
  slotPerDay : Nat := 0
  deriving DecidableEq, Repr

/-- A guild's ranks in memory and in the tables, and how many tabs it has, which are six at most. -/
structure RankedGuild where
  ranks : List GuildRank := []
  purchasedTabs : Nat := 0
  purchased_le : purchasedTabs ≤ 6 := by decide
  rankRows : List GuildRankRow := []
  bankRightRows : List BankRightRow := []

/-- The columns of names, and the names in the language of the server. -/
structure RankNames where
  column : String → String
  texts : Nat → String

namespace RankedGuild

variable (d : RankNames) (g : RankedGuild)

/-! ## Edits -/

/-- A write to a rank's entry for a tab. -/
def setTab (rankId : Nat) (tab : Fin 6) (e : TabEntry) (ranks : List GuildRank) : List GuildRank :=
  ranks.modify rankId fun r => { r with tabs := Function.update r.tabs tab e }

def deleteBankRight (tabId rid : Nat) (rows : List BankRightRow) : List BankRightRow :=
  rows.filter fun row => ¬(row.tabId = tabId ∧ row.rid = rid)

/-- `INSERT INTO guild_rank`, which fails where there is such an id. -/
def insertRank (row : GuildRankRow) (rows : List GuildRankRow) : List GuildRankRow :=
  if rows.any fun r => r.rid == row.rid then rows else rows ++ [row]

def createBankRightForTab (rankId tabId : Nat) : RankedGuild :=
  if h : rankId ≥ g.ranks.length ∨ tabId ≥ 6 then g
  else
    { g with
      ranks := setTab rankId ⟨tabId, by omega⟩ {} g.ranks
      bankRightRows := deleteBankRight tabId rankId g.bankRightRows ++ [{ tabId := tabId, rid := rankId }] }

def createRank (name : String) (rights : Nat) : RankedGuild :=
  if g.ranks.length ≥ guildMaxRanks then g
  else
    let rank : GuildRank := { name := name, rights := rights }
    let g1 : RankedGuild := { g with ranks := g.ranks ++ [rank] }
    let g2 := (List.range g.purchasedTabs).foldl (fun g i => g.createBankRightForTab (g.ranks.length - 1) i) g1
    { g2 with
      rankRows := insertRank { rid := g2.ranks.length, rname := d.column name, rights := rights } g2.rankRows }

def createDefaultGuildRanks : RankedGuild :=
  let g : RankedGuild := { g with rankRows := [], bankRightRows := [] }
  let g := g.createRank d (d.texts 0) grRightAll
  let g := g.createRank d (d.texts 1) grRightAll
  let g := g.createRank d (d.texts 2) (grRightGChatListen ||| grRightGChatSpeak)
  let g := g.createRank d (d.texts 3) (grRightGChatListen ||| grRightGChatSpeak)
  g.createRank d (d.texts 4) (grRightGChatListen ||| grRightGChatSpeak)

def delRank : RankedGuild :=
  if g.ranks = [] then g
  else
    let rank := g.ranks.length - 1
    { g with
      ranks := g.ranks.dropLast
      rankRows := g.rankRows.filter fun row => ¬ rank + 1 ≤ row.rid
      bankRightRows := g.bankRightRows.filter fun row => ¬ rank ≤ row.rid }

/-- A write to a rank and to its row. -/
def editRank (rankId : Nat) (f : GuildRank → GuildRank) (f' : GuildRankRow → GuildRankRow) : RankedGuild :=
  if rankId ≥ g.ranks.length then g
  else
    { g with
      ranks := g.ranks.modify rankId f
      rankRows := g.rankRows.map fun row => if row.rid = rankId + 1 then f' row else row }

def setRankName (rankId : Nat) (name : String) : RankedGuild :=
  g.editRank rankId (fun r => { r with name := name }) fun row => { row with rname := d.column name }

def setRankRights (rankId rights : Nat) : RankedGuild :=
  g.editRank rankId (fun r => { r with rights := rights }) fun row => { row with rights := rights }

def setBankMoneyPerDay (rankId money : Nat) : RankedGuild :=
  let money := if rankId = grGuildMaster then withdrawMoneyUnlimited else money
  g.editRank rankId (fun r => { r with bankMoneyPerDay := money }) fun row => { row with bankMoneyPerDay := money }

def setBankRightsAndSlots (rankId tabId right nbSlots : Nat) (db : Bool) : RankedGuild :=
  if h : rankId ≥ g.ranks.length ∨ tabId ≥ 6 ∨ tabId ≥ g.purchasedTabs then
    { g with bankRightRows := deleteBankRight tabId rankId g.bankRightRows }
  else
    let e : TabEntry := if rankId = grGuildMaster then TabEntry.full else ⟨right, nbSlots⟩
    let g : RankedGuild := { g with ranks := setTab rankId ⟨tabId, by omega⟩ e g.ranks }
    if db then
      { g with bankRightRows := deleteBankRight tabId rankId g.bankRightRows ++ [⟨tabId, rankId, e.right, e.slotPerDay⟩] }
    else g

def createNewBankTab : RankedGuild :=
  if h : g.purchasedTabs ≥ 6 then g
  else { g with purchasedTabs := g.purchasedTabs + 1, purchased_le := by omega }

end RankedGuild

/-- The edits of a guild's ranks.  What a rank may do on a tab comes from the client with 8 bits. -/
inductive RankEdit where
  | createRank (name : String) (rights : Nat)
  | delRank
  | setRankName (rankId : Nat) (name : String)
  | setRankRights (rankId rights : Nat)
  | setBankMoneyPerDay (rankId money : Nat)
  | setBankRightsAndSlots (rankId tabId : Nat) (right : UInt8) (nbSlots : Nat)
  | createNewBankTab

namespace RankedGuild

variable (d : RankNames) (g : RankedGuild)

def edit : RankEdit → RankedGuild
  | .createRank name rights => g.createRank d name rights
  | .delRank => g.delRank
  | .setRankName rankId name => g.setRankName d rankId name
  | .setRankRights rankId rights => g.setRankRights rankId rights
  | .setBankMoneyPerDay rankId money => g.setBankMoneyPerDay rankId money
  | .setBankRightsAndSlots rankId tabId right nbSlots => g.setBankRightsAndSlots rankId tabId right.toNat nbSlots true
  | .createNewBankTab => g.createNewBankTab

/-- A guild that was founded. -/
def created : RankedGuild := createDefaultGuildRanks d {}

/-! ## Loading -/

/-- The rows of a guild as `LoadRanksFromDB` reads them, by rising id. -/
def selectRanks : List GuildRankRow := g.rankRows.insertionSort fun a b => a.rid ≤ b.rid

/-- The loop of `LoadRanksFromDB`: the ranks, and if they are broken. -/
def readRanks : List GuildRankRow → List GuildRank → Bool → List GuildRank × Bool
  | [], ranks, broken => (ranks, broken)
  | row :: rows, ranks, broken =>
    -- the first rank is the guild master's, who is not to lose his rights
    let rights := if ranks = [] then row.rights ||| grRightAll else row.rights
    readRanks rows (ranks ++ [{ name := row.rname, rights := rights, bankMoneyPerDay := row.bankMoneyPerDay }])
      (broken || row.rid != ranks.length + 1)

def loadRanksFromDB : RankedGuild :=
  let r := readRanks g.selectRanks [] false
  if r.1.length < guildRanksMinCount then { g with ranks := [] }.createDefaultGuildRanks d
  else if r.2 then
    -- the repair
    { g with
      ranks := r.1
      rankRows := r.1.mapIdx fun i rank => { rid := i, rname := d.column rank.name, rights := rank.rights } }
  else { g with ranks := r.1 }

/-- `LoadBankRightsFromDB`, of rows that were read. -/
def loadBankRightsFromDB (rows : List BankRightRow) : RankedGuild :=
  rows.foldl (fun g row =>
    g.setBankRightsAndSlots row.rid row.tabId (row.gbright % 65536) (row.slotPerDay % 65536) false) g

/-- The guild after a new start of the server; the rows of both tables are read before. -/
def loaded : RankedGuild :=
  (g.loadRanksFromDB d).loadBankRightsFromDB (g.bankRightRows.insertionSort fun a b => a.tabId ≤ b.tabId)

end RankedGuild

end BlizzLike
