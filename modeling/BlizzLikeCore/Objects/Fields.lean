import Mathlib.Algebra.Group.Nat.Defs
import Mathlib.Logic.Function.Basic
import Mathlib.Tactic.Common

/-!
# Fields of objects

`Object`: `m_uint32Values` with the mirror that tells what was sent, the setters, and when an object is in the
list of those to be updated.  All setters end alike: something was written and the object is in that list, if it is
in the world.

A failed `ASSERT` ends the process; nothing is written then.  Floats are kept by their bits and what is computed
with them is a parameter.  A shift by 32, which an offset of 4 leads to, is one by 0.
-/

namespace BlizzLike

/-- `m_objectTypeId`; a game object may be a transport. -/
inductive ObjectKind where
  | item
  | container
  | creature
  | player
  | gameObject (transport : Bool)
  | dynamicObject
  | corpse
  deriving DecidableEq, Repr

def objectEnd : Nat := 0x0006
def itemEnd : Nat := objectEnd + 0x0036
def containerEnd : Nat := itemEnd + 0x004A
def unitEnd : Nat := objectEnd + 0x00E4
def playerEnd : Nat := unitEnd + 0x054E
def gameObjectEnd : Nat := objectEnd + 0x0014
def dynamicObjectEnd : Nat := objectEnd + 0x000A
def corpseEnd : Nat := objectEnd + 0x0022

/-- `m_valuesCount` -/
def ObjectKind.valuesCount : ObjectKind → Nat
  | .item => itemEnd
  | .container => containerEnd
  | .creature => unitEnd
  | .player => playerEnd
  | .gameObject _ => gameObjectEnd
  | .dynamicObject => dynamicObjectEnd
  | .corpse => corpseEnd

/-- `TYPEMASK_UNIT` -/
def ObjectKind.isUnit (k : ObjectKind) : Bool := k = .creature ∨ k = .player

/-- What is done with floats, given by their bits. -/
structure FloatBits where
  ne : BitVec 32 → BitVec 32 → Bool
  add : BitVec 32 → BitVec 32 → BitVec 32
  neg : BitVec 32 → BitVec 32
  negative : BitVec 32 → Bool
  toUInt32 : BitVec 32 → BitVec 32

/-- `queued` says that `ObjectAccessor` has the object in `i_objects`. -/
structure Object where
  kind : ObjectKind
  values : Nat → BitVec 32 := fun _ => 0
  mirror : Nat → BitVec 32 := fun _ => 0
  objectUpdated : Bool := false
  inWorld : Bool := false
  queued : Bool := false

namespace Object

variable (o : Object)

def valuesCount : Nat := o.kind.valuesCount

/-- The end of each setter. -/
def changed : Object :=
  if o.inWorld then if o.objectUpdated then o else { o with objectUpdated := true, queued := true } else o

def put (index : Nat) (value : BitVec 32) : Object :=
  { o with values := Function.update o.values index value }

def clearUpdateMask (remove : Bool) : Object :=
  { o with
    mirror := o.values
    objectUpdated := false
    queued := if o.objectUpdated && remove then false else o.queued }

def addToWorld : Object := if o.inWorld then o else { o with inWorld := true }.clearUpdateMask true

def removeFromWorld : Object := if o.inWorld then { o with inWorld := false }.clearUpdateMask true else o

def forceValuesUpdateAtIndex (i : Nat) : Object :=
  if o.valuesCount ≤ i then o else { o with mirror := Function.update o.mirror i (o.values i + 1) }.changed

/-! ## Setters -/

/-- `SetUInt32Value`, and `SetInt32Value` by the bits. -/
def setUInt32Value (index : Nat) (value : BitVec 32) : Object :=
  if o.valuesCount ≤ index then o
  else if o.values index ≠ value then (o.put index value).changed
  else o

/-- Two fields as one `uint64`. -/
def getUInt64Value (index : Nat) : BitVec 64 := o.values (index + 1) ++ o.values index

def put64 (index : Nat) (value : BitVec 64) : Object :=
  (o.put index (value.extractLsb' 0 32)).put (index + 1) (value.extractLsb' 32 32)

def setUInt64Value (index : Nat) (value : BitVec 64) : Object :=
  if o.valuesCount ≤ index + 1 then o
  else if o.getUInt64Value index ≠ value then (o.put64 index value).changed
  else o

def addUInt64Value (index : Nat) (value : BitVec 64) : Object :=
  if o.valuesCount ≤ index + 1 then o
  else if value ≠ 0 ∧ o.getUInt64Value index = 0 then (o.put64 index value).changed
  else o

def removeUInt64Value (index : Nat) (value : BitVec 64) : Object :=
  if o.valuesCount ≤ index + 1 then o
  else if value ≠ 0 ∧ o.getUInt64Value index = value then (o.put64 index 0).changed
  else o

def setFloatValue (fl : FloatBits) (index : Nat) (value : BitVec 32) : Object :=
  if o.valuesCount ≤ index then o
  else if fl.ne (o.values index) value then (o.put index value).changed
  else o

/-- A shift of an `uint32`: only five bits of the count matter. -/
def shl (v : BitVec 32) (n : Nat) : BitVec 32 := v <<< (n % 32)

def shr (v : BitVec 32) (n : Nat) : BitVec 32 := v >>> (n % 32)

/-- A part of a field, `width` bits wide, is replaced. -/
def setPart (width index offset : Nat) (value : BitVec 32) : Object :=
  let ones : BitVec 32 := BitVec.ofNat 32 (2 ^ width - 1)
  if shr (o.values index) (offset * width) &&& ones ≠ value then
    (o.put index (o.values index &&& ~~~(shl ones (offset * width)) ||| shl value (offset * width))).changed
  else o

def setByteValue (index offset : Nat) (value : BitVec 8) : Object :=
  if o.valuesCount ≤ index then o
  else if 4 < offset then o
  else o.setPart 8 index offset (value.setWidth 32)

def setUInt16Value (index offset : Nat) (value : BitVec 16) : Object :=
  if o.valuesCount ≤ index then o
  else if 2 < offset then o
  else o.setPart 16 index offset (value.setWidth 32)

def setStatFloatValue (fl : FloatBits) (index : Nat) (value : BitVec 32) : Object :=
  o.setFloatValue fl index (if fl.negative value then 0 else value)

def setStatInt32Value (index : Nat) (value : BitVec 32) : Object :=
  o.setUInt32Value index (if value.slt 0 then 0 else value)

def applyModUInt32Value (index : Nat) (val : BitVec 32) (apply : Bool) : Object :=
  let cur := o.values index + if apply then val else -val
  o.setUInt32Value index (if cur.slt 0 then 0 else cur)

def applyModInt32Value (index : Nat) (val : BitVec 32) (apply : Bool) : Object :=
  o.setUInt32Value index (o.values index + if apply then val else -val)

def applyModSignedFloatValue (fl : FloatBits) (index : Nat) (val : BitVec 32) (apply : Bool) : Object :=
  o.setFloatValue fl index (fl.add (o.values index) (if apply then val else fl.neg val))

def applyModPositiveFloatValue (fl : FloatBits) (index : Nat) (val : BitVec 32) (apply : Bool) : Object :=
  let cur := fl.add (o.values index) (if apply then val else fl.neg val)
  o.setFloatValue fl index (if fl.negative cur then 0 else cur)

def setFlag (index : Nat) (newFlag : BitVec 32) : Object :=
  if o.valuesCount ≤ index then o
  else if o.values index ≠ o.values index ||| newFlag then (o.put index (o.values index ||| newFlag)).changed
  else o

def removeFlag (index : Nat) (oldFlag : BitVec 32) : Object :=
  if o.valuesCount ≤ index then o
  else if o.values index ≠ o.values index &&& ~~~oldFlag then (o.put index (o.values index &&& ~~~oldFlag)).changed
  else o

def setByteFlag (index offset : Nat) (newFlag : BitVec 8) : Object :=
  if o.valuesCount ≤ index then o
  else if 4 < offset then o
  else if (shr (o.values index) (offset * 8)).setWidth 8 &&& newFlag = 0 then
    (o.put index (o.values index ||| shl (newFlag.setWidth 32) (offset * 8))).changed
  else o

def removeByteFlag (index offset : Nat) (oldFlag : BitVec 8) : Object :=
  if o.valuesCount ≤ index then o
  else if 4 < offset then o
  else if (shr (o.values index) (offset * 8)).setWidth 8 &&& oldFlag ≠ 0 then
    (o.put index (o.values index &&& ~~~(shl (oldFlag.setWidth 32) (offset * 8)))).changed
  else o

end Object

/-- A call of a setter. -/
inductive FieldCall where
  | setInt32Value (index : Nat) (value : BitVec 32)
  | setUInt32Value (index : Nat) (value : BitVec 32)
  | setUInt64Value (index : Nat) (value : BitVec 64)
  | addUInt64Value (index : Nat) (value : BitVec 64)
  | removeUInt64Value (index : Nat) (value : BitVec 64)
  | setFloatValue (index : Nat) (value : BitVec 32)
  | setByteValue (index offset : Nat) (value : BitVec 8)
  | setUInt16Value (index offset : Nat) (value : BitVec 16)
  | setStatFloatValue (index : Nat) (value : BitVec 32)
  | setStatInt32Value (index : Nat) (value : BitVec 32)
  | applyModUInt32Value (index : Nat) (val : BitVec 32) (apply : Bool)
  | applyModInt32Value (index : Nat) (val : BitVec 32) (apply : Bool)
  | applyModSignedFloatValue (index : Nat) (val : BitVec 32) (apply : Bool)
  | applyModPositiveFloatValue (index : Nat) (val : BitVec 32) (apply : Bool)
  | setFlag (index : Nat) (newFlag : BitVec 32)
  | removeFlag (index : Nat) (oldFlag : BitVec 32)
  | setByteFlag (index offset : Nat) (newFlag : BitVec 8)
  | removeByteFlag (index offset : Nat) (oldFlag : BitVec 8)
  deriving DecidableEq, Repr

def Object.call (fl : FloatBits) (o : Object) : FieldCall → Object
  | .setInt32Value index value => o.setUInt32Value index value
  | .setUInt32Value index value => o.setUInt32Value index value
  | .setUInt64Value index value => o.setUInt64Value index value
  | .addUInt64Value index value => o.addUInt64Value index value
  | .removeUInt64Value index value => o.removeUInt64Value index value
  | .setFloatValue index value => o.setFloatValue fl index value
  | .setByteValue index offset value => o.setByteValue index offset value
  | .setUInt16Value index offset value => o.setUInt16Value index offset value
  | .setStatFloatValue index value => o.setStatFloatValue fl index value
  | .setStatInt32Value index value => o.setStatInt32Value index value
  | .applyModUInt32Value index val apply => o.applyModUInt32Value index val apply
  | .applyModInt32Value index val apply => o.applyModInt32Value index val apply
  | .applyModSignedFloatValue index val apply => o.applyModSignedFloatValue fl index val apply
  | .applyModPositiveFloatValue index val apply => o.applyModPositiveFloatValue fl index val apply
  | .setFlag index newFlag => o.setFlag index newFlag
  | .removeFlag index oldFlag => o.removeFlag index oldFlag
  | .setByteFlag index offset newFlag => o.setByteFlag index offset newFlag
  | .removeByteFlag index offset oldFlag => o.removeByteFlag index offset oldFlag

/-! ## What a setter does -/

namespace Object

/-- Nothing, or fields were written and that was noted. -/
def Touches (o o' : Object) : Prop := o' = o ∨ ∃ values, o' = { o with values := values }.changed

theorem touches_ite {o a : Object} {c : Prop} [Decidable c] (h : ¬c → Touches o a) :
    Touches o (if c then o else a) := by
  split
  · exact Or.inl rfl
  · next hc => exact h hc

theorem touches_write {o : Object} {c : Prop} [Decidable c] (values : Nat → BitVec 32) :
    Touches o (if c then { o with values := values }.changed else o) := by
  split
  · exact Or.inr ⟨values, rfl⟩
  · exact Or.inl rfl

theorem touches_setUInt32Value (o : Object) (index : Nat) (value : BitVec 32) :
    Touches o (o.setUInt32Value index value) := touches_ite fun _ => touches_write _

theorem touches_setFloatValue (fl : FloatBits) (o : Object) (index : Nat) (value : BitVec 32) :
    Touches o (o.setFloatValue fl index value) := touches_ite fun _ => touches_write _

/-- **Every setter.** -/
theorem touches_call (fl : FloatBits) (o : Object) (c : FieldCall) : Touches o (o.call fl c) := by
  cases c with
  | setInt32Value index value => exact touches_setUInt32Value o index value
  | setUInt32Value index value => exact touches_setUInt32Value o index value
  | setUInt64Value index value => exact touches_ite fun _ => touches_write _
  | addUInt64Value index value => exact touches_ite fun _ => touches_write _
  | removeUInt64Value index value => exact touches_ite fun _ => touches_write _
  | setFloatValue index value => exact touches_setFloatValue fl o index value
  | setByteValue index offset value => exact touches_ite fun _ => touches_ite fun _ => touches_write _
  | setUInt16Value index offset value => exact touches_ite fun _ => touches_ite fun _ => touches_write _
  | setStatFloatValue index value => exact touches_setFloatValue fl o index _
  | setStatInt32Value index value => exact touches_setUInt32Value o index _
  | applyModUInt32Value index val apply => exact touches_setUInt32Value o index _
  | applyModInt32Value index val apply => exact touches_setUInt32Value o index _
  | applyModSignedFloatValue index val apply => exact touches_setFloatValue fl o index _
  | applyModPositiveFloatValue index val apply => exact touches_setFloatValue fl o index _
  | setFlag index newFlag => exact touches_ite fun _ => touches_write _
  | removeFlag index oldFlag => exact touches_ite fun _ => touches_write _
  | setByteFlag index offset newFlag => exact touches_ite fun _ => touches_ite fun _ => touches_write _
  | removeByteFlag index offset oldFlag => exact touches_ite fun _ => touches_ite fun _ => touches_write _

theorem changed_eq (o : Object) :
    o.changed.kind = o.kind ∧ o.changed.values = o.values ∧ o.changed.mirror = o.mirror ∧
      o.changed.inWorld = o.inWorld := by
  unfold changed
  split
  · split <;> exact ⟨rfl, rfl, rfl, rfl⟩
  · exact ⟨rfl, rfl, rfl, rfl⟩

end Object

end BlizzLike
