import Nmea.Error
import Nmea.Line.Validator

/-!
# The log

What is told to the log while sentences are read and constructors are registered. A computation
that logs gives its value together with the events in the order in which they happened.
-/

namespace Nmea

/-! ### Events -/

/-- How much an event matters. -/
inductive Level
  /-- A step of the work on a line. -/
  | trace
  /-- A change or a failure that a user may look for. -/
  | debug
  deriving DecidableEq

/-- Something that is worth telling. -/
inductive Event
  /-- A line was turned away by a validator. -/
  | rejected (validator : Validator) (raw : Text) (why : Rejection)
  /-- A value that a kind presets cannot be written. -/
  | presetSkipped (id : Text) (index : Nat) (why : Error)
  /-- A constructor without both capabilities was refused. -/
  | registrationRefused (id : Text) (missing : Capability)
  /-- A constructor was registered, perhaps in place of another. -/
  | registered (id : Text) (replaced : Bool)
  /-- A constructor was taken out. -/
  | unregistered (id : Text)
  /-- The constructors that come with the library were put back. -/
  | resetToBuiltins (count : Nat)
  /-- No constructor was found. -/
  | unknownId (id : Text)
  /-- A constructor could not read a line. -/
  | constructorFailed (id : Text) (why : Error)
  deriving DecidableEq

namespace Event

/-- How much an event matters. -/
def level : Event → Level
  | .rejected _ _ _ => .trace
  | _               => .debug

/-- What is told about an event. -/
def message : Event → Text
  | .rejected _ raw .shape    => "not a sentence: ".toList ++ quoted raw
  | .rejected v raw .policy   => quoted raw ++ " rejected by ".toList ++ v.text
  | .rejected _ raw .checksum => "checksum mismatch in ".toList ++ quoted raw
  | .presetSkipped id index why =>
    id ++ ": skipping preset ".toList ++ decimal index ++ ": ".toList ++ why.message
  | .registrationRefused id missing =>
    "rejected ".toList ++ id ++ " registration: no ".toList ++ missing.name ++
      " constructor".toList
  | .registered id replaced =>
    "registered ".toList ++ id ++ " (replaced: ".toList ++
      (if replaced then "true".toList else "false".toList) ++ ")".toList
  | .unregistered id => "unregistered ".toList ++ id
  | .resetToBuiltins count =>
    "registry reset to ".toList ++ decimal count ++ " built-in parsers".toList
  | .unknownId id => "no parser registered for ".toList ++ id
  | .constructorFailed id why => id ++ " parser failed: ".toList ++ why.message

end Event

/-! ### Computations that log -/

/-- A value and the events on the way to it. -/
structure Logged (α : Type) where
  /-- The value. -/
  value : α
  /-- The events, the first one first. -/
  events : List Event

namespace Logged

instance : Monad Logged where
  pure a := ⟨a, []⟩
  bind x g :=
    let y := g x.value
    ⟨y.value, x.events ++ y.events⟩

variable {α β : Type}

@[simp] theorem value_pure (a : α) : (pure a : Logged α).value = a := rfl

@[simp] theorem value_bind (x : Logged α) (g : α → Logged β) :
    (x >>= g).value = (g x.value).value := rfl

@[simp] theorem events_bind (x : Logged α) (g : α → Logged β) :
    (x >>= g).events = x.events ++ (g x.value).events := rfl

/-- Tells an event. -/
def tell (e : Event) : Logged Unit := ⟨(), [e]⟩

end Logged

/-! ### Validators -/

namespace Validator

/-- The frame of a line, and an event if the line is turned away. -/
def report (v : Validator) (raw : Text) : Except Rejection Frame → Logged (Option Frame)
  | .ok f      => pure (some f)
  | .error why => do
    Logged.tell (.rejected v raw why)
    pure none

/-- Whether a line has the shape of a sentence and satisfies the policies. -/
def isSentence (v : Validator) (raw : Text) : Logged Bool := do
  let f ← v.report raw (v.frame raw)
  pure f.isSome

/-- Whether a line has, beyond that, no wrong checksum. -/
def isValid (v : Validator) (raw : Text) : Logged Bool := do
  let f ← v.report raw (v.checkedFrame raw)
  pure f.isSome

end Validator

end Nmea
