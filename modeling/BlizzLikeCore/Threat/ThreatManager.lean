import Mathlib.Logic.Function.Basic

/-!
# Threat managers

What a creature holds against its enemies: `HostileReference`, the two `ThreatContainer`s of the online
and the offline references, and `ThreatManager` with the events the references fire from inside their
own setters.  References are pointers, numbered in the order they are made; `refs` has those that are
not deleted.  Units are known by their guids, and a reference knows if it is linked to its unit.

`float` is a parameter, of which nothing is assumed.  What the units are like while an operation runs
is an argument of the operation.  Threat to a unit is threat to its owner too, and to the owner of the
owner: the recursion takes its depth from a fuel argument, and gives nothing when that runs out.
-/

namespace BlizzLike

/-- The arithmetic of `float`, with the two factors a better victim is told by. -/
structure FloatOps (F : Type) where
  zero : F
  add : F → F → F
  sub : F → F → F
  mul : F → F → F
  div : F → F → F
  neg : F → F
  ofInt : Int → F
  lt : F → F → Bool
  le : F → F → Bool
  eq : F → F → Bool
  oneOne : F
  oneThree : F

/-- What the units around the creature are like, told by their guids. -/
structure Surroundings (F : Type) where
  isAlive : Nat → Bool
  isPlayer : Nat → Bool
  isGameMaster : Nat → Bool
  inFlight : Nat → Bool
  /-- `ObjectAccessor::GetUnit` finds the unit. -/
  getUnit : Nat → Bool
  isInAccessiblePlace : Nat → Bool
  isWithinCombatRange : Nat → Bool
  getCharmerOrOwner : Nat → Option Nat
  /-- `ApplySpellMod` of the unit's `GetSpellModOwner`, which changes nothing where there is none. -/
  applySpellMod : Nat → Nat → F → F
  applyTotalThreatModifier : Nat → F → Nat → F
  getReducedThreatPercent : Nat → Nat
  getMisdirectionTarget : Nat → Option Nat
  isImmunedToDamage : Nat → Bool
  isConfused : Nat → Bool
  isOutOfThreatArea : Nat → Bool
  isWithinMeleeRange : Nat → Bool

def SPELL_SCHOOL_MASK_NORMAL : Nat := 1

def calcThreat {F : Type} (u : Surroundings F) (pHatedUnit : Nat) (pThreat : F) (schoolMask : Nat)
    (pThreatSpell : Option Nat) : F :=
  let pThreat := match pThreatSpell with
    | some spell => u.applySpellMod pHatedUnit spell pThreat
    | none => pThreat
  u.applyTotalThreatModifier pHatedUnit pThreat schoolMask

/-- `HostileReference`; `iRefTo` is the unit it is linked to. -/
structure HostileReference (F : Type) where
  iThreat : F
  iTempThreatModifyer : F
  iUnitGuid : Nat
  iOnline : Bool
  iAccessible : Bool
  iRefTo : Option Nat
  deriving DecidableEq, Repr

/-- `ThreatManager` with its two containers, the online one `iDirty` or not, and the heap of its
references. -/
structure ThreatManager (F : Type) where
  iOwner : Nat
  refs : Nat → Option (HostileReference F) := fun _ => none
  nextRef : Nat := 0
  iThreatContainer : List Nat := []
  iThreatOfflineContainer : List Nat := []
  iDirty : Bool := false
  iCurrentVictim : Option Nat := none

/-- `ThreatRefStatusChangeEvent`, by its type. -/
inductive ThreatRefStatusChangeEvent (F : Type) where
  | threatChange (ref : Nat) (fValue : F)
  | onlineStatus (ref : Nat)
  | accessibleStatus (ref : Nat)
  | removeFromList (ref : Nat)

namespace ThreatManager

variable {F : Type} (o : FloatOps F) (u : Surroundings F) (m : ThreatManager F)

/-! ## References -/

/-- A write to the fields of a reference. -/
def setRef (r : Nat) (f : HostileReference F → HostileReference F) : ThreatManager F :=
  match m.refs r with
  | some ref => { m with refs := Function.update m.refs r (some (f ref)) }
  | none => m

/-- `delete` -/
def deleteRef (r : Nat) : ThreatManager F := { m with refs := Function.update m.refs r none }

def getThreat (r : Nat) : F := ((m.refs r).map (·.iThreat)).getD o.zero

def isOnline (r : Nat) : Bool := ((m.refs r).map (·.iOnline)).getD false

def getTarget (r : Nat) : Option Nat := (m.refs r).bind (·.iRefTo)

def setDirty : ThreatManager F := { m with iDirty := true }

/-- `HostileReference(pVictim, this, 0)`, put into the online container. -/
def newReference (pVictim : Nat) : ThreatManager F :=
  let ref : HostileReference F :=
    { iThreat := o.zero, iTempThreatModifyer := o.zero, iUnitGuid := pVictim, iOnline := true,
      iAccessible := true, iRefTo := some pVictim }
  { m with
    refs := Function.update m.refs m.nextRef (some ref)
    nextRef := m.nextRef + 1
    iThreatContainer := m.iThreatContainer ++ [m.nextRef] }

/-- `processThreatEvent`; a change of accessibility has no case. -/
def processThreatEvent : ThreatRefStatusChangeEvent F → ThreatManager F
  | .threatChange r fValue =>
    if m.iCurrentVictim = some r ∧ o.lt fValue o.zero ∨ m.iCurrentVictim ≠ some r ∧ o.lt o.zero fValue then
      m.setDirty
    else m
  | .onlineStatus r =>
    if !m.isOnline r then
      let m := if m.iCurrentVictim = some r then { m with iCurrentVictim := none, iDirty := true } else m
      { m with
        iThreatContainer := m.iThreatContainer.filter (· ≠ r)
        iThreatOfflineContainer := m.iThreatOfflineContainer ++ [r] }
    else
      let m := match m.iCurrentVictim with
        | some c => if o.lt (o.mul o.oneOne (m.getThreat o c)) (m.getThreat o r) then m.setDirty else m
        | none => m
      { m with
        iThreatContainer := m.iThreatContainer ++ [r]
        iThreatOfflineContainer := m.iThreatOfflineContainer.filter (· ≠ r) }
  | .accessibleStatus _ => m
  | .removeFromList r =>
    let m := if m.iCurrentVictim = some r then { m with iCurrentVictim := none, iDirty := true } else m
    if m.isOnline r then { m with iThreatContainer := m.iThreatContainer.filter (· ≠ r) }
    else { m with iThreatOfflineContainer := m.iThreatOfflineContainer.filter (· ≠ r) }

def setAccessibleState (r : Nat) (pIsAccessible : Bool) : ThreatManager F :=
  match m.refs r with
  | some ref =>
    if ref.iAccessible ≠ pIsAccessible then
      (m.setRef r fun ref => { ref with iAccessible := pIsAccessible }).processThreatEvent o
        (.accessibleStatus r)
    else m
  | none => m

def setOnlineOfflineState (r : Nat) (pIsOnline : Bool) : ThreatManager F :=
  match m.refs r with
  | some ref =>
    if ref.iOnline ≠ pIsOnline then
      let m := m.setRef r fun ref => { ref with iOnline := pIsOnline }
      let m := if !pIsOnline then m.setAccessibleState o r false else m
      m.processThreatEvent o (.onlineStatus r)
    else m
  | none => m

/-- `link(target, getSource())` of `updateOnlineStatus`, where the link was cut. -/
def relink (r : Nat) : ThreatManager F :=
  match m.refs r with
  | some ref =>
    if ref.iRefTo.isNone ∧ u.getUnit ref.iUnitGuid then
      m.setRef r fun ref => { ref with iRefTo := some ref.iUnitGuid }
    else m
  | none => m

/-- If the source reaches the target: online, and accessible. -/
def reaches (target : Option Nat) : Bool × Bool :=
  match target with
  | some t =>
    if (!u.isPlayer t || !u.isGameMaster t) || !u.inFlight t then
      (u.isInAccessiblePlace t || u.isWithinCombatRange t, u.isInAccessiblePlace t)
    else (false, false)
  | none => (false, false)

def updateOnlineStatus (r : Nat) : ThreatManager F :=
  let m := m.relink u r
  let status := reaches u (m.getTarget r)
  (m.setAccessibleState o r status.2).setOnlineOfflineState o r status.1

/-- `invalidate`: the target cuts the link. -/
def invalidate (r : Nat) : ThreatManager F :=
  (m.setOnlineOfflineState o r false).setRef r fun ref => { ref with iRefTo := none }

def removeReference (r : Nat) : ThreatManager F :=
  (m.invalidate o r).processThreatEvent o (.removeFromList r)

/-! ## Threat -/

def getReferenceByTarget (iThreatList : List Nat) (guid : Nat) : Option Nat :=
  iThreatList.find? fun r => (m.refs r).any fun ref => ref.iUnitGuid == guid

/-- What `HostileReference::addThreat` is, for the functions that it calls and that call it. -/
abbrev AddsThreat (F : Type) := ThreatManager F → Nat → F → Option (ThreatManager F)

variable (refAddThreat : AddsThreat F)

/-- `_addThreat` -/
def addThreatTo (pVictim : Nat) (threat : F) : Option (ThreatManager F) :=
  match m.getReferenceByTarget m.iThreatContainer pVictim with
  | some r => refAddThreat m r threat
  | none =>
    -- not in the online refs, search the offline refs next
    match m.getReferenceByTarget m.iThreatOfflineContainer pVictim with
    | some r => refAddThreat m r threat
    | none => do
      let r := m.nextRef
      let m ← refAddThreat (m.newReference o pVictim) r threat
      -- a game master is always offline
      if u.isPlayer pVictim && u.isGameMaster pVictim then some (m.setOnlineOfflineState o r false)
      else some m

/-- The share of the threat that a misdirection takes to its target, and the threat left. -/
def addMisdirected (pVictim : Nat) (threat : F) : Option (ThreatManager F × F) :=
  if o.lt o.zero threat && u.getReducedThreatPercent pVictim != 0 then
    let reducedThreat :=
      o.div (o.mul threat (o.ofInt (u.getReducedThreatPercent pVictim))) (o.ofInt 100)
    match u.getMisdirectionTarget pVictim with
    | some unit => (m.addThreatTo o u refAddThreat unit reducedThreat).map fun m =>
        (m, o.sub threat reducedThreat)
    | none => some (m, o.sub threat reducedThreat)
  else some (m, threat)

def addThreat (pVictim : Option Nat) (pThreat : F) (schoolMask : Nat) (pThreatSpell : Option Nat) :
    Option (ThreatManager F) :=
  match pVictim with
  | none => some m
  | some victim =>
    -- not to self, not to a game master, not to dead and not for dead
    if victim = m.iOwner then some m
    else if u.isPlayer victim && u.isGameMaster victim then some m
    else if !u.isAlive victim || !u.isAlive m.iOwner then some m
    else do
      let threat := calcThreat u victim pThreat schoolMask pThreatSpell
      let (m, threat) ← m.addMisdirected o u refAddThreat victim threat
      m.addThreatTo o u refAddThreat victim threat

/-- What `HostileReference::addThreat` does to the reference itself. -/
def changeThreat (r : Nat) (pMod : F) : ThreatManager F :=
  let m := m.setRef r fun ref => { ref with iThreat := o.add ref.iThreat pMod }
  -- if the link was cut before relink it again
  let m := if !m.isOnline r then m.updateOnlineStatus o u r else m
  if !o.eq pMod o.zero then m.processThreatEvent o (.threatChange r pMod) else m

/-- `HostileReference::addThreat`, with threat to the owner of a pet. -/
def addThreatOf : Nat → AddsThreat F
  | 0, _, _, _ => none
  | fuel + 1, m, r, pMod =>
    let m := m.changeThreat o u r pMod
    match m.getTarget r with
    | some t =>
      if o.le o.zero pMod then
        match u.getCharmerOrOwner t with
        | some victim_owner =>
          if u.isAlive victim_owner then
            m.addThreat o u (addThreatOf fuel) (some victim_owner) o.zero SPELL_SCHOOL_MASK_NORMAL none
          else some m
        | none => some m
      else some m
    | none => some m

def addThreatPercent (r : Nat) (pPercent : Int) : Option (ThreatManager F) :=
  let iThreat := m.getThreat o r
  let tmpThreat := o.div (o.mul iThreat (o.ofInt (pPercent + 100))) (o.ofInt 100)
  refAddThreat m r (o.sub tmpThreat iThreat)

def setTempThreat (r : Nat) (pThreat : F) : Option (ThreatManager F) :=
  let iTempThreatModifyer := o.sub pThreat (m.getThreat o r)
  let m := m.setRef r fun ref => { ref with iTempThreatModifyer := iTempThreatModifyer }
  if !o.eq iTempThreatModifyer o.zero then refAddThreat m r iTempThreatModifyer else some m

def getTempThreatModifyer (r : Nat) : F := ((m.refs r).map (·.iTempThreatModifyer)).getD o.zero

def resetTempThreat (r : Nat) : Option (ThreatManager F) :=
  if !o.eq (m.getTempThreatModifyer o r) o.zero then do
    let m ← refAddThreat m r (o.neg (m.getTempThreatModifyer o r))
    some (m.setRef r fun ref => { ref with iTempThreatModifyer := o.zero })
  else some m

/-! ## The manager's functions -/

/-- `delete` of all references of a container. -/
def deleteRefs (iThreatList : List Nat) : ThreatManager F :=
  { m with refs := fun r => if r ∈ iThreatList then none else m.refs r }

def clearReferences : ThreatManager F :=
  let m := { m.deleteRefs m.iThreatContainer with iThreatContainer := [] }
  let m := { m.deleteRefs m.iThreatOfflineContainer with iThreatOfflineContainer := [] }
  { m with iCurrentVictim := none }

def modifyThreatPercent (pVictim : Nat) (pPercent : Int) : Option (ThreatManager F) :=
  match m.getReferenceByTarget m.iThreatContainer pVictim with
  | some r =>
    if pPercent < -100 then some ((m.removeReference o r).deleteRef r)
    else m.addThreatPercent o refAddThreat r pPercent
  | none => some m

/-- `ThreatContainer::update`: `std::list::sort`, which is stable, by falling threat. -/
def update : ThreatManager F :=
  let m := if m.iDirty ∧ m.iThreatContainer.length > 1 then
      { m with
        iThreatContainer := m.iThreatContainer.mergeSort fun a b =>
          !o.lt (m.getThreat o a) (m.getThreat o b) }
    else m
  { m with iDirty := false }

/-- The loop of `selectNextVictim`; nothing when it stops at `ASSERT(target)`. -/
def selectNextVictim : List Nat → Option Nat → Option (Option Nat)
  | [], _ => some none
  | r :: rest, pCurrentVictim =>
    match m.getTarget r with
    | none => none
    | some target =>
      -- some units are preferred in comparison to others
      if !rest.isEmpty && (u.isImmunedToDamage target || u.isConfused target) then
        selectNextVictim rest (if pCurrentVictim = some r then none else pCurrentVictim)
      else if !u.isOutOfThreatArea target then
        match pCurrentVictim with
        | some c =>
          if c = r ∨ o.le (m.getThreat o r) (o.mul o.oneOne (m.getThreat o c)) then some (some c)
          else if o.lt (o.mul o.oneThree (m.getThreat o c)) (m.getThreat o r) ||
              o.lt (o.mul o.oneOne (m.getThreat o c)) (m.getThreat o r) && u.isWithinMeleeRange target then
            some (some r)
          else selectNextVictim rest pCurrentVictim
        | none => some (some r)
      else selectNextVictim rest pCurrentVictim

def getHostileTarget : Option (ThreatManager F) := do
  let m := m.update o
  let nextVictim ← m.selectNextVictim o u m.iThreatContainer m.iCurrentVictim
  some { m with iCurrentVictim := nextVictim }

def tauntApply (pTaunter : Nat) : Option (ThreatManager F) :=
  match m.getReferenceByTarget m.iThreatContainer pTaunter, m.iCurrentVictim with
  | some r, some c =>
    if o.lt (m.getThreat o r) (m.getThreat o c) && o.eq (m.getTempThreatModifyer o r) o.zero then
      m.setTempThreat o refAddThreat r (m.getThreat o c)
    else some m
  | _, _ => some m

def tauntFadeOut (pTaunter : Nat) : Option (ThreatManager F) :=
  match m.getReferenceByTarget m.iThreatContainer pTaunter with
  | some r => m.resetTempThreat o refAddThreat r
  | none => some m

/-- The end of `Spell::EffectTaunt`: the caster becomes the victim if it is in the online container. -/
def forceVictim (m_caster : Nat) : ThreatManager F :=
  match m.getReferenceByTarget m.iThreatContainer m_caster with
  | some r => { m with iCurrentVictim := some r }
  | none => m

/-! ## Runs -/

end ThreatManager

/-- What a target's `HostileRefManager` does to one of the references linked to it: `threatAssist`,
`addThreatPercent`, `updateThreatTables`, `setOnlineOfflineState`, `deleteReferences` or
`deleteReference`, and `clearReferences` when the target is destroyed. -/
inductive HatedOp (F : Type) where
  | addThreat (pMod : F)
  | addThreatPercent (pValue : Int)
  | updateOnlineStatus
  | setOnlineOfflineState (pIsOnline : Bool)
  | deleteReference
  | invalidate

/-- An operation on the threat of a creature. -/
inductive ThreatOp (F : Type) where
  | addThreat (pVictim : Option Nat) (pThreat : F) (schoolMask : Nat) (pThreatSpell : Option Nat)
  | modifyThreatPercent (pVictim : Nat) (pPercent : Int)
  | getHostileTarget
  | tauntApply (pTaunter : Nat)
  | tauntFadeOut (pTaunter : Nat)
  | forceVictim (m_caster : Nat)
  | clearReferences
  | hated (ref : Nat) (op : HatedOp F)

namespace ThreatManager

variable {F : Type} (o : FloatOps F) (u : Surroundings F) (m : ThreatManager F)

def handleHated (fuel r : Nat) : HatedOp F → Option (ThreatManager F)
  | .addThreat pMod => addThreatOf o u fuel m r pMod
  | .addThreatPercent pValue => m.addThreatPercent o (addThreatOf o u fuel) r pValue
  | .updateOnlineStatus => some (m.updateOnlineStatus o u r)
  | .setOnlineOfflineState pIsOnline => some (m.setOnlineOfflineState o r pIsOnline)
  | .deleteReference => some ((m.removeReference o r).deleteRef r)
  | .invalidate => some (m.invalidate o r)

/-- One operation; a target reaches only references linked to it. -/
def handle (fuel : Nat) : ThreatOp F → Option (ThreatManager F)
  | .addThreat pVictim pThreat schoolMask pThreatSpell =>
    m.addThreat o u (addThreatOf o u fuel) pVictim pThreat schoolMask pThreatSpell
  | .modifyThreatPercent pVictim pPercent => m.modifyThreatPercent o (addThreatOf o u fuel) pVictim pPercent
  | .getHostileTarget => m.getHostileTarget o u
  | .tauntApply pTaunter => m.tauntApply o (addThreatOf o u fuel) pTaunter
  | .tauntFadeOut pTaunter => m.tauntFadeOut o (addThreatOf o u fuel) pTaunter
  | .forceVictim m_caster => some (m.forceVictim m_caster)
  | .clearReferences => some m.clearReferences
  | .hated r op => if (m.getTarget r).isSome then m.handleHated o u fuel r op else some m

/-- Operations one after the other, each in its own surroundings. -/
def run (fuel : Nat) : ThreatManager F → List (Surroundings F × ThreatOp F) → Option (ThreatManager F)
  | m, [] => some m
  | m, (u, op) :: ops => (m.handle o u fuel op).bind fun m => run fuel m ops

end ThreatManager

end BlizzLike
