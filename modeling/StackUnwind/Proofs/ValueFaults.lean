import StackUnwind.Episode.Session
import Mathlib.Tactic.SplitIfs

/-!
# Faults of values

The values of a frame are read from registers, from memory and from the
constant pool of its code. Each of these has its own faults, and reading a
value has no other ones.
-/
namespace StackUnwind

/-- The fault can come from reading a value. -/
def Fault.IsOfValue : Fault → Prop
  | .registerUnavailable _ | .badRegister _ | .invalidRead _ | .constantOutOfRange .. => True
  | _ => False

variable {fault : Fault}

theorem RegisterFile.get_error {file : RegisterFile} {register : Register}
    (h : file.get register = .error fault) : fault.IsOfValue := by
  unfold get at h
  split_ifs at h
  · split at h <;> cases h
    trivial
  · cases h
    trivial

theorem Memory.read_error {memory : Memory} {address : Word}
    (h : memory.read address = .error fault) : fault.IsOfValue := by
  unfold read at h
  split at h <;> cases h
  trivial

namespace Location

variable {file : RegisterFile} {memory : Memory}

theorem readSlot_error {base : Register} {offset : Int32}
    (h : readSlot base offset file memory = .error fault) : fault.IsOfValue := by
  cases hbase : file.get base with
  | error e =>
      rw [readSlot, hbase] at h
      obtain rfl : e = fault := Except.error.inj h
      exact RegisterFile.get_error hbase
  | ok word =>
      rw [readSlot, hbase] at h
      exact Memory.read_error h

theorem resolve_error {location : Location} {pool : List Word}
    (h : location.resolve file pool memory = .error fault) : fault.IsOfValue := by
  cases location with
  | register reg => exact RegisterFile.get_error h
  | direct base offset => exact readSlot_error h
  | indirect base offset => exact readSlot_error h
  | constant value => cases h
  | pooled index =>
      simp only [resolve] at h
      split at h <;> cases h
      trivial

end Location

/-- A fault of reading values is the fault of one of them. -/
theorem resolveAll_error {resolve : Location → Except Fault Word} {locations : List Location}
    (h : (resolveAll resolve locations).2 = .error fault) :
    ∃ location ∈ locations, resolve location = .error fault := by
  induction locations with
  | nil => cases h
  | cons location rest ih =>
      cases hvalue : resolve location with
      | error e =>
          simp only [resolveAll, hvalue] at h
          cases h
          exact ⟨location, List.mem_cons_self, hvalue⟩
      | ok value =>
          simp only [resolveAll, hvalue] at h
          obtain ⟨other, hmem, hother⟩ := ih h
          exact ⟨other, List.mem_cons_of_mem _ hmem, hother⟩

theorem Frame.scopedValues_error {frame : Frame} {memory : Memory}
    (h : (frame.scopedValues memory).2 = .error fault) : fault.IsOfValue := by
  cases frame with
  | interpreted ip bp => cases h
  | compiled region ip bp sp registers =>
      obtain ⟨location, -, hlocation⟩ := resolveAll_error h
      exact Location.resolve_error hlocation

end StackUnwind
