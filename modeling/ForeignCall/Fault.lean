import ForeignCall.Json
import ForeignCall.MessagePack
import ForeignCall.Text.Quoted

/-! Everything that can go wrong at the boundary, by cause, and the wording of each cause. -/

namespace ForeignCall

inductive Fault where
  /-- A call that declares no error reported one. -/
  | undeclaredError
  | unknownStatus (code : Int)
  | panicked (message : String)
  | notLive (address : Nat)
  | bufferTooLong (length : Nat)
  | wordRange (value : Int) (width : Int)
  | wordShift
  | wordField (value : Nat) (width : Nat)
  | wordWidth (width : Int)
  | shortInput (width : Int) (offset : Int) (length : Nat)
  | splitInput (width : Int) (offset : Int)
  | offsetRange (offset : Int) (length : Nat)
  /-- An offset that no machine word can hold. -/
  | offsetWidth
  | handleBits (width : Int)
  | unhashable (form : String)
  | statusCode (value : Int)
  | unknownCodec (name : String)
  | utf8 (flaw : Utf8.Flaw)
  | ascii (flaw : Ascii.Flaw)
  | json (flaw : Json.Flaw)
  | messagePack (flaw : MessagePack.Flaw)
  | unopenable (path : String)
  | missingSymbol (name : String)
  | noContract
  | contractMismatch (expected actual : Int)
  | nameTooLong (path : String)
  | linkLoop (path : String)
  /-- More releases were under way at once than may be. -/
  | nestedReleases
  /-- The error a generated binding raises, with what its payload decoded to. -/
  | domain (payload : Datum)
  | unknownDomainError
  | notARecord
  | notANumber (form : String)
  | notAddable (total item : String)
  | foreign (message : String)
  | missing (name : String)

namespace Fault

def utf8Reason : Utf8.Reason → String
  | .invalidStart => "invalid start byte"
  | .invalidContinuation => "invalid continuation byte"
  | .unexpectedEnd => "unexpected end of data"

def utf8Message (flaw : Utf8.Flaw) : String :=
  match flaw.bytes with
  | [byte] =>
      s!"'utf-8' codec can't decode byte 0x{Text.hexByte byte} in position {flaw.position}: {utf8Reason flaw.reason}"
  | bytes =>
      s!"'utf-8' codec can't decode bytes in position {flaw.position}-{flaw.position + bytes.length - 1}: {utf8Reason flaw.reason}"

def asciiMessage (flaw : Ascii.Flaw) : String :=
  s!"'ascii' codec can't decode byte 0x{Text.hexByte flaw.byte} in position {flaw.position}: ordinal not in range(128)"

def jsonProblem : Json.Problem → String
  | .expectingValue => "Expecting value"
  | .expectingName => "Expecting property name enclosed in double quotes"
  | .expectingColon => "Expecting ':' delimiter"
  | .expectingComma => "Expecting ',' delimiter"
  | .extraData => "Extra data"
  | .unterminatedString => "Unterminated string starting at"
  | .controlCharacter => "Invalid control character at"
  | .invalidEscape => "Invalid \\escape"
  | .invalidUnicodeEscape => "Invalid \\uXXXX escape"
  | .byteOrderMark => "Unexpected UTF-8 BOM (decode using utf-8-sig)"

def jsonContainer : Json.Container → String
  | .array => "array"
  | .object => "object"

def jsonMessage : Json.Flaw → String
  | .problem what place =>
      s!"{jsonProblem what}: line {place.line} column {place.column} (char {place.offset})"
  | .tooManyDigits count =>
      s!"Exceeds the limit (4300 digits) for integer string conversion: value has {count} digits; use sys.set_int_max_str_digits() to increase the limit"
  | .tooDeep container =>
      s!"maximum recursion depth exceeded while decoding a JSON {jsonContainer container} from a unicode string"

def keyForm : MessagePack.KeyForm → String
  | .null => "NoneType"
  | .bool => "bool"
  | .int => "int"
  | .float => "float"
  | .list => "list"
  | .map => "dict"
  | .ext => "ExtType"
  | .timestamp => "Timestamp"

def messagePackMessage : MessagePack.Flaw → String
  | .incomplete => "Unpack failed: incomplete input"
  | .unassignedByte => ""
  | .extraData => "unpack(b) received extra data."
  | .tooDeep => ""
  | .arrayTooLong count limit => s!"{count} exceeds max_array_len({limit})"
  | .mapTooLong count limit => s!"{count} exceeds max_map_len({limit})"
  | .extensionTooLong limit => s!"0 exceeds max_ext_len({limit})"
  | .text flaw => utf8Message flaw
  | .key form => s!"{keyForm form} is not allowed for map key when strict_map_key=True"
  | .timestampLength length => s!"invalid timestamp data (length {length})"
  | .timestampFraction => "nanoseconds must be a non-negative integer not greater than 999999999."
  | .extensionCode => "code must be 0~127"

/-- The wording of a fault. Addresses are not part of it. -/
def message : Fault → String
  | .undeclaredError => "Unexpected CALL_ERROR"
  | .unknownStatus code => s!"Unknown rust call status: {code}"
  | .panicked text => text
  | .notLive _ => "Buffer at 0xADDR was already released or not allocated here"
  | .bufferTooLong length => s!"Buffer size {length} exceeds max 2147483647"
  | .wordRange value width => s!"{value} does not fit in a {width}-byte usize"
  | .wordShift => "negative shift count"
  | .wordField _ width =>
      if width = 4 then "'I' format requires 0 <= number <= 4294967295"
      else "argument out of range"
  | .wordWidth width => s!"Invalid SIZE_T_SIZE: {width}"
  | .shortInput width offset length =>
      s!"Need {width} bytes at offset {offset}, buffer has {length}"
  | .splitInput width offset => s!"not enough data to unpack {width} bytes at offset {offset}"
  | .offsetRange offset length => s!"offset {offset} out of range for {length}-byte buffer"
  | .offsetWidth => "Python int too large to convert to C ssize_t"
  | .handleBits width => s!"bits must be in 1..{width}"
  | .unhashable form => s!"unhashable type: '{form}'"
  | .statusCode value => s!"{value} is not a valid CallStatusCode"
  | .unknownCodec name => s!"Unknown error payload codec '{name}'"
  | .utf8 flaw => utf8Message flaw
  | .ascii flaw => asciiMessage flaw
  | .json flaw => jsonMessage flaw
  | .messagePack flaw => messagePackMessage flaw
  | .unopenable path => s!"Failed to open native library {path}"
  | .missingSymbol name => s!"Native library is missing symbol '{name}'"
  | .noContract => "Native library does not report a contract version"
  | .contractMismatch expected actual =>
      s!"Contract version mismatch: bindings expect {expected}, native library reports {actual}"
  | .nameTooLong path => s!"[Errno 36] File name too long: {Text.quoted path}"
  | .linkLoop path => s!"Symlink loop from {Text.quoted path}"
  | .nestedReleases => "maximum recursion depth exceeded"
  | .domain _ => "DomainError"
  | .unknownDomainError => "unknown error kind"
  | .notARecord => "not a record"
  | .notANumber form => s!"unsupported operand type(s) for *: '{form}' and 'int'"
  | .notAddable total item => s!"unsupported operand type(s) for +: '{total}' and '{item}'"
  | .foreign text => text
  | .missing name => name

/-- The families of faults that callers tell apart, each inside its parent. -/
inductive Family where
  | callFailure
  | internal
  | panic
  | bufferRelease
  | libraryLoad
  deriving DecidableEq

def Family.name : Family → String
  | .callFailure => "RustCallError"
  | .internal => "InternalError"
  | .panic => "PanicError"
  | .bufferRelease => "BufferReleaseError"
  | .libraryLoad => "LibraryLoadError"

def Family.parent : Family → Option Family
  | .callFailure => none
  | .internal => some .callFailure
  | .panic => some .internal
  | .bufferRelease => some .callFailure
  | .libraryLoad => some .callFailure

/-- A family and all it lies inside, innermost first. -/
def Family.lineage : Family → List Family
  | .callFailure => [.callFailure]
  | .internal => [.internal, .callFailure]
  | .panic => [.panic, .internal, .callFailure]
  | .bufferRelease => [.bufferRelease, .callFailure]
  | .libraryLoad => [.libraryLoad, .callFailure]

/-- The exceptions that faults are raised as. -/
inductive Kind where
  | family (group : Family)
  | value
  | overflow
  | type
  | recursion
  | runtime
  | system
  | packing
  | undecodable
  | json
  | format
  | stack
  | extraData
  | domain
  | foreign
  | missing
  deriving DecidableEq

def Kind.name : Kind → String
  | .family group => group.name
  | .value => "ValueError"
  | .overflow => "OverflowError"
  | .type => "TypeError"
  | .recursion => "RecursionError"
  | .runtime => "RuntimeError"
  | .system => "OSError"
  | .packing => "struct.error"
  | .undecodable => "UnicodeDecodeError"
  | .json => "JSONDecodeError"
  | .format => "FormatError"
  | .stack => "StackError"
  | .extraData => "ExtraData"
  | .domain => "DomainError"
  | .foreign => "NativeRaise"
  | .missing => "Missing"

def jsonKind : Json.Flaw → Kind
  | .problem _ _ => .json
  | .tooManyDigits _ => .value
  | .tooDeep _ => .recursion

def messagePackKind : MessagePack.Flaw → Kind
  | .unassignedByte => .format
  | .extraData => .extraData
  | .tooDeep => .stack
  | .text _ => .undecodable
  | _ => .value

def kind : Fault → Kind
  | .undeclaredError => .family .internal
  | .unknownStatus _ => .family .internal
  | .wordWidth _ => .family .internal
  | .noContract => .family .internal
  | .contractMismatch _ _ => .family .internal
  | .unknownDomainError => .family .internal
  | .panicked _ => .family .panic
  | .notLive _ => .family .bufferRelease
  | .unopenable _ => .family .libraryLoad
  | .missingSymbol _ => .family .libraryLoad
  | .bufferTooLong _ => .overflow
  | .wordRange _ _ => .overflow
  | .offsetWidth => .overflow
  | .wordField _ _ => .packing
  | .splitInput _ _ => .packing
  | .offsetRange _ _ => .packing
  | .unhashable _ => .type
  | .notARecord => .type
  | .notANumber _ => .type
  | .notAddable _ _ => .type
  | .utf8 _ => .undecodable
  | .ascii _ => .undecodable
  | .json flaw => jsonKind flaw
  | .messagePack flaw => messagePackKind flaw
  | .nameTooLong _ => .system
  | .linkLoop _ => .runtime
  | .nestedReleases => .recursion
  | .domain _ => .domain
  | .foreign _ => .foreign
  | .missing _ => .missing
  | _ => .value

def family? (fault : Fault) : Option Family :=
  match fault.kind with
  | .family group => some group
  | _ => none

/-- A kind's name without the module it belongs to. -/
def Kind.shortName : Kind → String
  | .packing => "error"
  | kind => kind.name

/-- How a record shows a fault: as its exception with what that was made from, which is mostly the
message. Decoding errors and those of extra data, made from the payload as well, are shown with the
message alone. -/
def label : Fault → String
  | .domain _ => "DomainError"
  | .nameTooLong _ => "OSError(36, 'File name too long')"
  | .messagePack .unassignedByte => "FormatError()"
  | .messagePack .tooDeep => "StackError()"
  | fault => s!"{fault.kind.shortName}({Text.quoted fault.message})"

end Fault

end ForeignCall
