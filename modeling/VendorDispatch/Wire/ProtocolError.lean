/-!
The errors that answer a request in place of a reply.

* `ProtocolError.code` is the number sent to the client; errors of the extension's own range are
  offset by the extension's error base, modulo 256.
* `ProtocolError.text` is the error's text and `ProtocolError.ofText?` finds the error by it.
-/

namespace VendorDispatch

/-- Errors of the extension's own range, in the order of their numbers. -/
inductive ExtensionError
  | badContext
  | badContextState
  | badDrawable
  | badPixmap
  | badContextTag
  | badCurrentWindow
  | badRenderRequest
  | badLargeRequest
  | unsupportedPrivateRequest
  | badFBConfig
  | badPbuffer
  | badCurrentDrawable
  | badWindow
  | badProfileARB
  deriving DecidableEq, Repr, Inhabited

namespace ExtensionError

/-- Every error of the range, in the order of their numbers. -/
def all : List ExtensionError :=
  [badContext, badContextState, badDrawable, badPixmap, badContextTag, badCurrentWindow,
   badRenderRequest, badLargeRequest, unsupportedPrivateRequest, badFBConfig, badPbuffer,
   badCurrentDrawable, badWindow, badProfileARB]

/-- The error's place in the range. -/
def offset : ExtensionError → UInt8
  | badContext => 0
  | badContextState => 1
  | badDrawable => 2
  | badPixmap => 3
  | badContextTag => 4
  | badCurrentWindow => 5
  | badRenderRequest => 6
  | badLargeRequest => 7
  | unsupportedPrivateRequest => 8
  | badFBConfig => 9
  | badPbuffer => 10
  | badCurrentDrawable => 11
  | badWindow => 12
  | badProfileARB => 13

/-- The error's name within the range. -/
def name : ExtensionError → String
  | badContext => "BadContext"
  | badContextState => "BadContextState"
  | badDrawable => "BadDrawable"
  | badPixmap => "BadPixmap"
  | badContextTag => "BadContextTag"
  | badCurrentWindow => "BadCurrentWindow"
  | badRenderRequest => "BadRenderRequest"
  | badLargeRequest => "BadLargeRequest"
  | unsupportedPrivateRequest => "UnsupportedPrivateRequest"
  | badFBConfig => "BadFBConfig"
  | badPbuffer => "BadPbuffer"
  | badCurrentDrawable => "BadCurrentDrawable"
  | badWindow => "BadWindow"
  | badProfileARB => "BadProfileARB"

/-- The list of all errors gives each its place. -/
theorem all_getElem_offset (e : ExtensionError) : all[e.offset.toNat]? = some e := by
  cases e <;> rfl

end ExtensionError

/-- An error that answers a request. -/
inductive ProtocolError
  | badRequest
  | badValue
  | badWindow
  | badPixmap
  | badMatch
  | badDrawable
  | badAccess
  | badAlloc
  | badIDChoice
  | badLength
  | badImplementation
  /-- An error of the extension's own range. -/
  | extension (e : ExtensionError)
  /-- Any other error, by the number that is sent. -/
  | other (code : UInt8)
  deriving DecidableEq, Repr, Inhabited

namespace ProtocolError

/-- The number sent to the client, for an extension whose own errors start at `errorBase`. -/
def code (errorBase : UInt8) : ProtocolError → UInt8
  | badRequest => 1
  | badValue => 2
  | badWindow => 3
  | badPixmap => 4
  | badMatch => 8
  | badDrawable => 9
  | badAccess => 10
  | badAlloc => 11
  | badIDChoice => 14
  | badLength => 16
  | badImplementation => 17
  | extension e => errorBase + e.offset
  | other code => code

/-- The text of an error. -/
def text : ProtocolError → String
  | badRequest => "BadRequest"
  | badValue => "BadValue"
  | badWindow => "BadWindow"
  | badPixmap => "BadPixmap"
  | badMatch => "BadMatch"
  | badDrawable => "BadDrawable"
  | badAccess => "BadAccess"
  | badAlloc => "BadAlloc"
  | badIDChoice => "BadIDChoice"
  | badLength => "BadLength"
  | badImplementation => "BadImplementation"
  | extension e => "GLX" ++ e.name
  | other code => "X error " ++ toString code.toNat

/-- The identifying text of an error: where it belongs, and its name or number there. -/
def tag : ProtocolError → String
  | extension e => "Glx(" ++ e.name ++ ")"
  | other code => "Other(" ++ toString code.toNat ++ ")"
  | e => e.text

/-- The errors outside the extension's range that have a name. -/
def core : List ProtocolError :=
  [badRequest, badValue, badWindow, badPixmap, badMatch, badDrawable, badAccess, badAlloc,
   badIDChoice, badLength, badImplementation]

/-- Every error: the core ones, those of the extension, and the numbered ones. -/
def all : List ProtocolError :=
  core ++ ExtensionError.all.map extension ++
    (List.range 256).map fun n => other (UInt8.ofNat n)

/-- The error with the given text. -/
def ofText? (t : String) : Option ProtocolError :=
  all.find? fun e => e.text == t

end ProtocolError

end VendorDispatch
