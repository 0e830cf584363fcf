/-!
What a vendor and the router agree on before they work together: the version of their interface,
the handle that names the vendor, and the extension's registration with the window system.

* `AbiVersion.isCompatibleWith`: minor versions only add things, so the major version decides.
-/

namespace VendorDispatch

/-- Names a registered vendor. Handles are never used twice. -/
structure VendorId where
  /-- The vendor's place in the order of registration, from zero. -/
  index : Nat
  deriving DecidableEq, Repr, Inhabited

/-- A version of the interface between the router and the vendors. -/
structure AbiVersion where
  /-- Versions of different major number do not work together. -/
  major : UInt16
  /-- Counts what was added within the major version. -/
  minor : UInt16
  deriving DecidableEq, Repr, Inhabited

namespace AbiVersion

/-- The version of this router. -/
def current : AbiVersion := ⟨0, 0⟩

/-- Whether a vendor of one version works with a router of the other. -/
def isCompatibleWith (a b : AbiVersion) : Bool := a.major = b.major

/-- Older versions come first. -/
def compare (a b : AbiVersion) : Ordering :=
  (Ord.compare a.major b.major).then (Ord.compare a.minor b.minor)

/-- The version as text, with the names of its parts. -/
def text (a : AbiVersion) : String :=
  "AbiVersion \x7b major: " ++ toString a.major.toNat ++ ", minor: " ++ toString a.minor.toNat ++
    " \x7d"

end AbiVersion

/-- The extension's registration with the window system. -/
structure ExtensionEntry where
  /-- The name of the extension. -/
  name : String
  /-- The opcode that the extension's requests share. -/
  majorOpcode : UInt8
  /-- The number of the extension's first error. -/
  errorBase : UInt8
  /-- The number of the extension's first event. -/
  eventBase : UInt8
  deriving DecidableEq, Repr, Inhabited

end VendorDispatch
