import RowAccess.Concern
/-!
# Suppression

A concern is suppressed between entering and leaving it, and may be entered more than once: it stays
suppressed until it has been left as often. All concerns share one set of flags, which is there only
as long as some concern is suppressed.
-/

namespace RowAccess

/-- A flag for each concern. -/
@[ext]
structure Flags where
  isSet : Concern → Bool

namespace Flags

/-- No flag set. -/
def none : Flags := ⟨fun _ => false⟩

/-- The flags with the one of `c` changed. -/
def set (f : Flags) (c : Concern) (value : Bool) : Flags :=
  ⟨fun d => if d = c then value else f.isSet d⟩

/-- Only the flag of `c` set. -/
def only (c : Concern) : Flags := none.set c true

/-- Whether a flag other than that of `c` is set. -/
def hasOtherThan (f : Flags) (c : Concern) : Bool := Concern.all.any fun d => d != c && f.isSet d

@[simp] theorem isSet_none (c : Concern) : none.isSet c = false := rfl

@[simp] theorem isSet_set (f : Flags) (c d : Concern) (value : Bool) :
    (f.set c value).isSet d = if d = c then value else f.isSet d := rfl

@[simp] theorem isSet_only (c d : Concern) : (only c).isSet d = decide (d = c) := by
  by_cases h : d = c <;> simp [only, h]

end Flags

/-- How deeply each concern is suppressed, and the flags they share. -/
@[ext]
structure Suppression where
  depth : Concern → Nat
  flags : Option Flags

namespace Suppression

/-- Nothing suppressed. -/
def idle : Suppression := ⟨fun _ => 0, none⟩

/-- The depths with that of `c` changed. -/
def withDepth (s : Suppression) (c : Concern) (n : Nat) : Suppression :=
  { s with depth := fun d => if d = c then n else s.depth d }

/-- Enters the suppression of `c`. -/
def enable (s : Suppression) (c : Concern) : Suppression :=
  { s.withDepth c (s.depth c + 1) with
    flags := match s.flags with
      | some f => some (f.set c true)
      | none => some (Flags.only c) }

/-- Leaves the suppression of `c`; nothing changes if it was not entered. Leaving it for the last
time lowers its flag, and drops the flags if no other is up. -/
def disable (s : Suppression) (c : Concern) : Suppression :=
  match s.depth c with
  | 0 => s
  | 1 =>
    { s.withDepth c 0 with
      flags := match s.flags with
        | some f => if f.hasOtherThan c then some (f.set c false) else none
        | none => none }
  | n + 1 => s.withDepth c n

/-- Drops all suppression. -/
def clear (_ : Suppression) : Suppression := idle

/-- Whether `c` is suppressed. -/
def isSuppressed (s : Suppression) (c : Concern) : Bool :=
  match s.flags with
  | some f => f.isSet c
  | none => false

/-- Whether nothing is suppressed. -/
def isIdle (s : Suppression) : Bool := s.flags.isNone && Concern.all.all fun c => s.depth c == 0

end Suppression

end RowAccess
