import ForeignCall.Fault

/-! Log records by what they report. -/

namespace ForeignCall

inductive Notice where
  | returnedError (fault : Fault)
  | panicked (message : String)
  | handleReused (handle : Nat)
  | unknownContinuation (code : Int) (handle : Int)
  | loopClosed (code : Int)
  | libraryLoaded (path : String)

inductive Level where
  | debug
  | info
  | warning
  deriving DecidableEq

namespace Notice

def channel : Notice → String
  | .returnedError _ => "rustcall.invoke"
  | .panicked _ => "rustcall.invoke"
  | .handleReused _ => "rustcall.handles"
  | .unknownContinuation _ _ => "rustcall.futures"
  | .loopClosed _ => "rustcall.futures"
  | .libraryLoaded _ => "rustcall.library"

def level : Notice → Level
  | .handleReused _ => .warning
  | .libraryLoaded _ => .info
  | _ => .debug

def text : Notice → String
  | .returnedError fault => s!"native call returned error {fault.label}"
  | .panicked message => s!"native call panicked: {message}"
  | .handleReused handle => s!"handle {handle} reused while still live"
  | .unknownContinuation code handle =>
      s!"poll result {code} for unknown continuation {handle}"
  | .loopClosed code => s!"dropping poll result {code}: event loop is closed"
  | .libraryLoaded path => s!"loaded native library {path}"

end Notice

end ForeignCall
