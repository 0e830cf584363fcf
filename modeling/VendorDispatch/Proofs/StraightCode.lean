import Mathlib.Tactic.Common
import VendorDispatch.Machine.Processor

/-!
Code that runs straight on.

* `Processor.Straight`: instructions that are executed one after the other, without a jump, and that
  store only within an area.
* `Straight.append`, `Straight.mono`: pieces of such code can be put together.
* `Straight.reaches`: if the bytes of such code are in the memory, apart from the area, then the
  processor runs it.
-/

namespace VendorDispatch

namespace Processor

variable {S I : Type} (P : Processor S I)

/-- The bytes of a sequence of instructions. -/
def assemble (is : List I) : List UInt8 := is.flatMap P.encode

/-- The instructions lead from one state to another without a jump, and store only within the
area. -/
inductive Straight (area : Area) : List I → S → S → Prop
  | nil (s : S) : Straight area [] s s
  | cons {i : I} {is : List I} {s t u : S} :
    P.execute i s = some (.next t) → P.address t = (P.address s).after (P.encode i).length →
    Memory.AgreesOutside area (P.memory s) (P.memory t) → Straight area is t u →
    Straight area (i :: is) s u

variable {P} {area : Area} {is js : List I} {i : I} {s t u : S}

lemma assemble_append : P.assemble (is ++ js) = P.assemble is ++ P.assemble js :=
  List.flatMap_append

/-- The processor executes the instruction whose bytes are in the memory. -/
lemma step_of_holds (h : (P.memory s).Holds (P.address s) (P.encode i)) :
    P.step s = P.execute i s := by
  rw [step, P.decode_of_holds h, Option.bind_some]

namespace Straight

/-- One instruction that goes on to the next one. -/
lemma single (h : P.execute i s = some (.next t))
    (haddress : P.address t = (P.address s).after (P.encode i).length)
    (hmemory : Memory.AgreesOutside area (P.memory s) (P.memory t)) : P.Straight area [i] s t :=
  .cons h haddress hmemory (.nil t)

/-- Two pieces of code in a row. -/
lemma append (h : P.Straight area is s t) (h' : P.Straight area js t u) :
    P.Straight area (is ++ js) s u := by
  induction h with
  | nil => exact h'
  | cons hexecute haddress hmemory _ ih => exact .cons hexecute haddress hmemory (ih h')

/-- Code that writes into an area writes into a wider one. -/
lemma mono {wide : Area} (h : P.Straight area is s t) (hwide : area.Within wide) :
    P.Straight wide is s t := by
  induction h with
  | nil s => exact .nil s
  | cons hexecute haddress hmemory _ ih => exact .cons hexecute haddress (hmemory.mono hwide) ih

/-- Straight code ends behind its last instruction. -/
lemma address_eq (h : P.Straight area is s t) :
    P.address t = (P.address s).after (P.assemble is).length := by
  induction h with
  | nil => exact (Address.after_zero _).symm
  | cons _ haddress _ _ ih => simp [ih, haddress, assemble]

/-- Code leaves alone what is outside of its area. -/
lemma memory_agrees (h : P.Straight area is s t) :
    Memory.AgreesOutside area (P.memory s) (P.memory t) := by
  induction h with
  | nil => exact .refl _ _
  | cons _ _ hmemory _ ih => exact hmemory.trans ih

/-- The processor runs straight code that is in the memory, apart from what it stores to. -/
lemma reaches {function : S → Option S} (h : P.Straight area is s t)
    (hcode : (P.memory s).Holds (P.address s) (P.assemble is))
    (hapart : (Area.mk (P.address s) (P.assemble is).length).Apart area) :
    P.Reaches function s t := by
  induction h with
  | nil s => exact .refl s
  | @cons i is s t u hexecute haddress hmemory _ ih =>
      have hbytes : P.assemble (i :: is) = P.encode i ++ P.assemble is := rfl
      rw [hbytes, Memory.holds_append, ← haddress] at hcode
      rw [hbytes, List.length_append] at hapart
      have hrest : (Area.mk (P.address t) (P.assemble is).length).Apart area := by
        intro x hx
        rw [haddress] at hx
        exact hapart x (Area.within_after (Nat.le_refl _) x hx)
      refine .head (.next ((step_of_holds hcode.1).trans hexecute)) (ih ?_ hrest)
      exact hcode.2.congr (hmemory.agreesOn hrest)

end Straight

end Processor

end VendorDispatch
