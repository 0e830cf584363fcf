/-!
Failures of the registration side of the library: vendors, screens, slots and stub memory.
A failure of a client's request is a `ProtocolError` instead.

* `Error.name` is the identifying text of a failure and `Error.message` the sentence shown to people.
* `Error.ofName?` finds a failure by its identifying text, so that `ofName? e.name = some e` for
  every failure that carries no error number.
* `bind_eq_ok_iff`: work that may fail succeeds if all of its parts do.
-/

namespace VendorDispatch

/-- Why a registration, a slot or a piece of stub memory was refused. -/
inductive Error
  /-- The operation failed for a reason of its own. -/
  | failed
  /-- Every slot is already assigned. -/
  | slotsExhausted
  /-- The slot lies outside what the registry or the stub region covers. -/
  | invalidSlot
  /-- The entry point name is empty or holds a NUL character. -/
  | invalidEntryPointName
  /-- The memory for stubs could not be mapped; the system's error number is kept. -/
  | executableMemoryMapFailed (errno : Int)
  /-- The mapped memory could not be made executable; the system's error number is kept. -/
  | executableMemoryProtectFailed (errno : Int)
  /-- The thread's cell is not at a fixed offset from the thread pointer. -/
  | threadLocalStorageUnavailable
  /-- The handle names no registered vendor. -/
  | unknownVendor
  /-- The vendor was built for another major version of the interface. -/
  | incompatibleAbiVersion
  /-- A required callback of the vendor is absent. -/
  | missingVendorCallbacks
  /-- The vendor is initialized, so it cannot be destroyed. -/
  | vendorInitialized
  /-- The vendor is not initialized, so it cannot own a screen. -/
  | vendorNotInitialized
  /-- There is no such screen. -/
  | badScreen
  /-- The extension already runs in this generation. -/
  | extensionAlreadyInitialized
  /-- The extension does not run in this generation. -/
  | extensionNotInitialized
  deriving DecidableEq, Repr, Inhabited

namespace Error

/-- The identifying text of a failure; an error number follows in brackets. -/
def name : Error → String
  | failed => "Failed"
  | slotsExhausted => "SlotsExhausted"
  | invalidSlot => "InvalidSlot"
  | invalidEntryPointName => "InvalidEntryPointName"
  | executableMemoryMapFailed errno => "ExecutableMemoryMapFailed(" ++ toString errno ++ ")"
  | executableMemoryProtectFailed errno => "ExecutableMemoryProtectFailed(" ++ toString errno ++ ")"
  | threadLocalStorageUnavailable => "ThreadLocalStorageUnavailable"
  | unknownVendor => "UnknownVendor"
  | incompatibleAbiVersion => "IncompatibleAbiVersion"
  | missingVendorCallbacks => "MissingVendorCallbacks"
  | vendorInitialized => "VendorInitialized"
  | vendorNotInitialized => "VendorNotInitialized"
  | badScreen => "BadScreen"
  | extensionAlreadyInitialized => "ExtensionAlreadyInitialized"
  | extensionNotInitialized => "ExtensionNotInitialized"

/-- The sentence shown to people. -/
def message : Error → String
  | failed => "operation failed"
  | slotsExhausted => "all dispatch table slots are in use"
  | invalidSlot => "dispatch slot out of range"
  | invalidEntryPointName => "invalid entry point name"
  | executableMemoryMapFailed errno =>
      "couldn't map entry point memory (errno " ++ toString errno ++ ")"
  | executableMemoryProtectFailed errno =>
      "couldn't make entry point memory executable (errno " ++ toString errno ++ ")"
  | threadLocalStorageUnavailable => "thread-local dispatch storage isn't in the static TLS block"
  | unknownVendor => "unknown vendor"
  | incompatibleAbiVersion => "incompatible vendor ABI version"
  | missingVendorCallbacks => "vendor is missing required callbacks"
  | vendorInitialized => "vendor is initialized"
  | vendorNotInitialized => "vendor is not initialized"
  | badScreen => "bad screen number"
  | extensionAlreadyInitialized => "extension already initialized"
  | extensionNotInitialized => "extension not initialized"

/-- The failures that can be named. The two that carry an error number are listed with the number
the system gives for them: out of memory for a mapping, permission denied for a protection. -/
def known : List Error :=
  [failed, slotsExhausted, invalidSlot, invalidEntryPointName, executableMemoryMapFailed 12,
   executableMemoryProtectFailed 13, threadLocalStorageUnavailable, unknownVendor,
   incompatibleAbiVersion, missingVendorCallbacks, vendorInitialized, vendorNotInitialized,
   badScreen, extensionAlreadyInitialized, extensionNotInitialized]

/-- The failure with the given identifying text. -/
def ofName? (text : String) : Option Error :=
  known.find? fun e => e.name == text

end Error

/-- Work that may fail goes on with a value that was found. -/
theorem bind_eq_ok_iff {ε α β : Type} {x : Except ε α} {f : α → Except ε β} {b : β} :
    x >>= f = .ok b ↔ ∃ a, x = .ok a ∧ f a = .ok b := by
  cases x with
  | error e => exact ⟨nofun, nofun⟩
  | ok a => exact ⟨fun h => ⟨a, rfl, h⟩, fun ⟨_, ha, h⟩ => Except.ok.inj ha ▸ h⟩

end VendorDispatch
