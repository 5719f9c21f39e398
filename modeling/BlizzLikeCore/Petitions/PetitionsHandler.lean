import BlizzLikeCore.Database.SqlDelayThread
import BlizzLikeCore.Lib.Transition

/-!
# Signing a petition

`HandlePetitionSignOpcode` counts the signatures of a petition by a query, asks by another whether the account
has signed, and hands the signature to the delay thread.  World thread and delay thread take turns, a step at a
time; what is in the queue no query sees.
-/

namespace BlizzLike

/-! ## Tables -/

/-- A row of `petition`. -/
structure Petition where
  ownerguid : Nat
  type : Nat

/-- A row of `petition_sign`. -/
structure SignRow where
  ownerguid : Nat
  petitionguid : Nat
  playerguid : Nat
  playerAccount : Nat
  deriving DecidableEq, Repr

/-- The primary key. -/
def SignRow.key (r : SignRow) : Nat × Nat := (r.petitionguid, r.playerguid)

/-- `INSERT INTO petition_sign` -/
def insertSign (row : SignRow) (rows : List SignRow) : Option (List SignRow) :=
  if row.key ∈ rows.map SignRow.key then none else some (rows ++ [row])

def signaturesOf (petitionguid : Nat) (rows : List SignRow) : List SignRow :=
  rows.filter fun r => r.petitionguid == petitionguid

/-! ## The checks -/

/-- What the handler reads of the player who signs, but for the account. -/
structure Signer where
  guidLow : Nat
  team : Nat
  level : Nat
  arenaTeamId : Nat → Nat
  arenaTeamIdInvited : Nat
  guildId : Nat
  guildIdInvited : Nat

/-- What signing does not change: the petitions, the accounts and teams of characters, the configuration. -/
structure PetitionRealm where
  petitions : Nat → Option Petition
  accountId : Nat → Nat
  playerTeam : Nat → Nat
  allowTwoSideInteractionGuild : Bool
  maxPlayerLevel : Nat

/-- Why a signature is refused. -/
inductive SignRefusal where
  | owner
  | arenaNotAllied
  | guildNotAllied
  | targetTooLow
  | noSuchSlot
  | inArenaTeam
  | invitedToArenaTeam
  | inGuild
  | invitedToGuild
  | full
  deriving DecidableEq, Repr

def guildCharterType : Nat := 9

def maxArenaSlot : Nat := 3

def getSlotByType (type : Nat) : Nat :=
  if type = 2 then 0 else if type = 3 then 1 else if type = 5 then 2 else 0xFF

namespace PetitionRealm

variable (w : PetitionRealm) (p : Petition) (s : Signer)

def refusesOwner : Option SignRefusal := if p.ownerguid = s.guidLow then some .owner else none

/-- Enemies do not sign. -/
def refusesEnemy : Option SignRefusal :=
  if w.allowTwoSideInteractionGuild = false ∧ s.team ≠ w.playerTeam p.ownerguid then
    some (if p.type ≠ guildCharterType then .arenaNotAllied else .guildNotAllied)
  else none

def refusesMember : Option SignRefusal :=
  if p.type ≠ guildCharterType then
    if s.level < w.maxPlayerLevel then some .targetTooLow
    else if maxArenaSlot ≤ getSlotByType p.type then some .noSuchSlot
    else if s.arenaTeamId (getSlotByType p.type) ≠ 0 then some .inArenaTeam
    else if s.arenaTeamIdInvited ≠ 0 then some .invitedToArenaTeam
    else none
  else if s.guildId ≠ 0 then some .inGuild
  else if s.guildIdInvited ≠ 0 then some .invitedToGuild
  else none

/-- `++signs > type`, where `signs` has eight bits. -/
def refusesCount (signs : UInt8) : Option SignRefusal := if p.type < (signs + 1).toNat then some .full else none

/-- The handler up to its second query. -/
def refusal (signs : UInt8) : Option SignRefusal :=
  refusesOwner p s <|> w.refusesEnemy p s <|> w.refusesMember p s <|> refusesCount p signs

end PetitionRealm

/-! ## State and steps -/

def SqlOperation.statements {Sql : Type*} : SqlOperation Sql → List Sql
  | .statement s => [s]
  | .transaction queue => queue

/-- Where the world thread is in the handler. -/
inductive SignPoint where
  | idle
  /-- Before the query for the account. -/
  | checking (s : Signer) (petitionguid : Nat) (p : Petition)
  /-- Before `PExecute`. -/
  | inserting (s : Signer) (petitionguid : Nat) (p : Petition)

structure PetitionSigns where
  db : Database Unit SignRow (List SignRow)
  point : SignPoint := .idle

inductive SignStep where
  /-- For the low part of the guid. -/
  | request (s : Signer) (petitionguid : Nat) (fails : Bool)
  | check (fails : Bool)
  | insert
  /-- The delay thread goes on. -/
  | work (fails : Bool)

namespace PetitionSigns

variable (w : PetitionRealm) (x : PetitionSigns)

def table : List SignRow := x.db.connection.store

/-- The signatures that the delay thread has still to execute. -/
def waiting : List SignRow :=
  (match x.db.point with
    | .statement r => [r]
    | _ => []) ++
  x.db.queue.flatMap SqlOperation.statements

/-- The handler up to its second query.  A query that fails gives no result, just as one without rows. -/
def request (s : Signer) (petitionguid : Nat) (fails : Bool) : PetitionSigns :=
  match x.point, if fails then none else w.petitions petitionguid with
  | .idle, some p =>
    match w.refusal p s (UInt8.ofNat (signaturesOf petitionguid x.table).length) with
    | some _ => x
    | none => { x with point := .checking s petitionguid p }
  | _, _ => x

def hasSigned (s : Signer) (petitionguid : Nat) : Bool :=
  (signaturesOf petitionguid x.table).any fun r => r.playerAccount == w.accountId s.guidLow

def check (fails : Bool) : PetitionSigns :=
  match x.point with
  | .checking s petitionguid p =>
    { x with point := if !fails && x.hasSigned w s petitionguid then .idle else .inserting s petitionguid p }
  | _ => x

/-- `PExecute` -/
def handOver : PetitionSigns :=
  match x.point with
  | .inserting s petitionguid p =>
    { db := x.db.step insertSign (.execute () ⟨p.ownerguid, petitionguid, s.guidLow, w.accountId s.guidLow⟩)
      point := .idle }
  | _ => x

def step : SignStep → PetitionSigns
  | .request s petitionguid fails => x.request w s petitionguid fails
  | .check fails => x.check w fails
  | .insert => x.handOver w
  | .work fails => { x with db := x.db.step insertSign (.work fails) }

def start (rows : List SignRow) : PetitionSigns := { db := { connection := { store := rows } } }

end PetitionSigns

/-! ## Limits -/

/-- The limits of a petition: its type, one signature an account, none of the owner. -/
structure LawfulSignatures (w : PetitionRealm) (rows : List SignRow) : Prop where
  count : ∀ g p, w.petitions g = some p → (signaturesOf g rows).length ≤ p.type
  accounts : ∀ g p, w.petitions g = some p → ((signaturesOf g rows).map SignRow.playerAccount).Nodup
  owner : ∀ g p, w.petitions g = some p → ∀ r ∈ signaturesOf g rows, r.playerguid ≠ p.ownerguid

end BlizzLike
