import Flowline.Text.Torn

/-!
Failures: the kinds of errors with their families, and an error with its text and its cause.

A step list fails with an error of the flow family. Errors of the operation family come from the
collaborators of a run and can be recovered from. Errors of the transport family come from the session
that sends requests, and all others are general.
-/

namespace Flowline

/-- Errors of a run. Fatal ones mean that the definition itself is broken. -/
inductive FlowErrorKind where
  | base
  | fatal
  | missingInput
  | unknownNotifier
  | unsupportedComparison
  | invalidPattern
  | stepFailed
  | captureNotFound
  | aborted
  deriving DecidableEq, Repr

/-- Errors of an operation whose retries are exhausted. -/
inductive OperationErrorKind where
  | base
  | http
  | file
  | notification
  deriving DecidableEq, Repr

/-- Errors of the session that sends requests. -/
inductive TransportErrorKind where
  | request
  | invalidJson
  | jsonDecode
  | http
  | connection
  | proxy
  | ssl
  | timeout
  | connectTimeout
  | readTimeout
  | urlRequired
  | tooManyRedirects
  | missingSchema
  | invalidSchema
  | invalidUrl
  | invalidHeader
  | invalidProxyUrl
  | chunkedEncoding
  | contentDecoding
  | streamConsumed
  | retry
  | unrewindableBody
  deriving DecidableEq, Repr

/-- Errors of no special family. -/
inductive GeneralErrorKind where
  | exception
  | arithmetic
  | floatingPoint
  | overflow
  | zeroDivision
  | assertion
  | missingAttribute
  | buffer
  | eof
  | importing
  | moduleNotFound
  | lookup
  | index
  | key
  | memory
  | unknownName
  | unboundLocal
  | os
  | blockingIo
  | childProcess
  | connection
  | brokenPipe
  | connectionAborted
  | connectionRefused
  | connectionReset
  | fileExists
  | fileNotFound
  | interrupted
  | isADirectory
  | notADirectory
  | permission
  | processLookup
  | timeout
  | reference
  | runtime
  | notImplemented
  | recursion
  | stopIteration
  | stopAsyncIteration
  | system
  | type
  | value
  | unicode
  | unicodeDecode
  | unicodeEncode
  | warning
  | userWarning
  | deprecationWarning
  | pattern
  deriving DecidableEq, Repr

inductive ErrorKind where
  | flow (k : FlowErrorKind)
  | operation (k : OperationErrorKind)
  | definition
  | transport (k : TransportErrorKind)
  | general (k : GeneralErrorKind)
  deriving DecidableEq, Repr

def FlowErrorKind.name : FlowErrorKind → String
  | base => "FlowError"
  | fatal => "FatalFlowError"
  | missingInput => "MissingInputError"
  | unknownNotifier => "UnknownNotifierError"
  | unsupportedComparison => "UnsupportedComparisonError"
  | invalidPattern => "InvalidPatternError"
  | stepFailed => "StepFailedError"
  | captureNotFound => "CaptureNotFoundError"
  | aborted => "FlowAbortedError"

def OperationErrorKind.name : OperationErrorKind → String
  | base => "OperationError"
  | http => "HttpError"
  | file => "FileOperationError"
  | notification => "NotificationError"

def TransportErrorKind.name : TransportErrorKind → String
  | request => "RequestException"
  | invalidJson => "InvalidJSONError"
  | jsonDecode => "JSONDecodeError"
  | http => "HTTPError"
  | connection => "ConnectionError"
  | proxy => "ProxyError"
  | ssl => "SSLError"
  | timeout => "Timeout"
  | connectTimeout => "ConnectTimeout"
  | readTimeout => "ReadTimeout"
  | urlRequired => "URLRequired"
  | tooManyRedirects => "TooManyRedirects"
  | missingSchema => "MissingSchema"
  | invalidSchema => "InvalidSchema"
  | invalidUrl => "InvalidURL"
  | invalidHeader => "InvalidHeader"
  | invalidProxyUrl => "InvalidProxyURL"
  | chunkedEncoding => "ChunkedEncodingError"
  | contentDecoding => "ContentDecodingError"
  | streamConsumed => "StreamConsumedError"
  | retry => "RetryError"
  | unrewindableBody => "UnrewindableBodyError"

def GeneralErrorKind.name : GeneralErrorKind → String
  | exception => "Exception"
  | arithmetic => "ArithmeticError"
  | floatingPoint => "FloatingPointError"
  | overflow => "OverflowError"
  | zeroDivision => "ZeroDivisionError"
  | assertion => "AssertionError"
  | missingAttribute => "AttributeError"
  | buffer => "BufferError"
  | eof => "EOFError"
  | importing => "ImportError"
  | moduleNotFound => "ModuleNotFoundError"
  | lookup => "LookupError"
  | index => "IndexError"
  | key => "KeyError"
  | memory => "MemoryError"
  | unknownName => "NameError"
  | unboundLocal => "UnboundLocalError"
  | os => "OSError"
  | blockingIo => "BlockingIOError"
  | childProcess => "ChildProcessError"
  | connection => "ConnectionError"
  | brokenPipe => "BrokenPipeError"
  | connectionAborted => "ConnectionAbortedError"
  | connectionRefused => "ConnectionRefusedError"
  | connectionReset => "ConnectionResetError"
  | fileExists => "FileExistsError"
  | fileNotFound => "FileNotFoundError"
  | interrupted => "InterruptedError"
  | isADirectory => "IsADirectoryError"
  | notADirectory => "NotADirectoryError"
  | permission => "PermissionError"
  | processLookup => "ProcessLookupError"
  | timeout => "TimeoutError"
  | reference => "ReferenceError"
  | runtime => "RuntimeError"
  | notImplemented => "NotImplementedError"
  | recursion => "RecursionError"
  | stopIteration => "StopIteration"
  | stopAsyncIteration => "StopAsyncIteration"
  | system => "SystemError"
  | type => "TypeError"
  | value => "ValueError"
  | unicode => "UnicodeError"
  | unicodeDecode => "UnicodeDecodeError"
  | unicodeEncode => "UnicodeEncodeError"
  | warning => "Warning"
  | userWarning => "UserWarning"
  | deprecationWarning => "DeprecationWarning"
  | pattern => "error"

namespace ErrorKind

def name : ErrorKind → String
  | flow k => k.name
  | operation k => k.name
  | definition => "FlowDefinitionError"
  | transport k => k.name
  | general k => k.name

/-- The name with that of the family before it; general errors have none. -/
def fullName : ErrorKind → String
  | general .pattern => "re.error"
  | general k => k.name
  | transport k => "requests.exceptions." ++ k.name
  | flow k => "m7m.errors." ++ k.name
  | operation k => "m7m.errors." ++ k.name
  | definition => "m7m.errors.FlowDefinitionError"

/-- The kinds that a kind is directly one of. -/
def parents : ErrorKind → List ErrorKind
  | flow .base | operation .base => [general .exception]
  | flow .captureNotFound => [flow .stepFailed]
  | flow .fatal | flow .stepFailed | flow .aborted => [flow .base]
  | flow _ => [flow .fatal]
  | operation _ => [operation .base]
  | definition => [general .value]
  | transport .request => [general .os]
  | transport .jsonDecode => [transport .invalidJson, general .value]
  | transport .proxy | transport .ssl => [transport .connection]
  | transport .connectTimeout => [transport .connection, transport .timeout]
  | transport .readTimeout => [transport .timeout]
  | transport .missingSchema | transport .invalidSchema | transport .invalidUrl
  | transport .invalidHeader => [transport .request, general .value]
  | transport .invalidProxyUrl => [transport .invalidUrl]
  | transport .streamConsumed => [transport .request, general .type]
  | transport _ => [transport .request]
  | general .exception => []
  | general .floatingPoint | general .overflow | general .zeroDivision => [general .arithmetic]
  | general .moduleNotFound => [general .importing]
  | general .index | general .key => [general .lookup]
  | general .unboundLocal => [general .unknownName]
  | general .blockingIo | general .childProcess | general .connection | general .fileExists
  | general .fileNotFound | general .interrupted | general .isADirectory
  | general .notADirectory | general .permission | general .processLookup
  | general .timeout => [general .os]
  | general .brokenPipe | general .connectionAborted | general .connectionRefused
  | general .connectionReset => [general .connection]
  | general .notImplemented | general .recursion => [general .runtime]
  | general .unicode => [general .value]
  | general .unicodeDecode | general .unicodeEncode => [general .unicode]
  | general .userWarning | general .deprecationWarning => [general .warning]
  | general _ => [general .exception]

/-- The kinds that can be reached from a kind by so many steps to a parent. -/
def ancestors : Nat → ErrorKind → List ErrorKind
  | 0, kind => [kind]
  | depth + 1, kind => kind :: kind.parents.flatMap (ancestors depth)

/-- Whether every error of a kind is also one of another. No line of parents is longer than six. -/
def isKindOf (kind family : ErrorKind) : Bool := (ancestors 6 kind).contains family

/-- Whether errors of a kind are failures of a run. -/
def isFlowError : ErrorKind → Bool
  | flow _ => true
  | _ => false

/-- Whether errors of a kind are failures of an operation, from which a step recovers. -/
def isOperationError : ErrorKind → Bool
  | operation _ => true
  | _ => false

/-- Whether errors of a kind come from the session that sends requests. -/
def isTransportError : ErrorKind → Bool
  | transport _ => true
  | _ => false

/-- Whether errors of a kind are failures of the operating system; those of a session are too. -/
def isSystemError (kind : ErrorKind) : Bool := kind.isKindOf (general .os)

/-- All kinds that can be given by name; where two have one name, the first one is meant. -/
def named : List ErrorKind :=
  [TransportErrorKind.request, .invalidJson, .jsonDecode, .http, .connection, .proxy, .ssl, .timeout,
    .connectTimeout, .readTimeout, .urlRequired, .tooManyRedirects, .missingSchema,
    .invalidSchema, .invalidUrl, .invalidHeader, .invalidProxyUrl, .chunkedEncoding,
    .contentDecoding, .streamConsumed, .retry, .unrewindableBody].map transport ++
  [FlowErrorKind.base, .fatal, .missingInput, .unknownNotifier, .unsupportedComparison,
    .invalidPattern, .stepFailed, .captureNotFound, .aborted].map flow ++
  [OperationErrorKind.base, .http, .file, .notification].map operation ++
  [definition] ++
  [GeneralErrorKind.exception, .arithmetic, .floatingPoint,
    .overflow, .zeroDivision, .assertion, .missingAttribute, .buffer, .eof, .importing,
    .moduleNotFound, .lookup, .index, .key, .memory, .unknownName, .unboundLocal, .os, .blockingIo,
    .childProcess, .brokenPipe, .connectionAborted, .connectionRefused, .connectionReset,
    .fileExists, .fileNotFound, .interrupted, .isADirectory, .notADirectory, .permission,
    .processLookup, .timeout, .reference, .runtime, .notImplemented, .recursion,
    .stopIteration, .stopAsyncIteration, .system, .type, .value, .unicode, .warning,
    .userWarning, .deprecationWarning].map general

def ofName? (name : String) : Option ErrorKind :=
  if name = "IOError" || name = "EnvironmentError" then some (general .os)
  else if name = "BaseException" then some (general .exception)
  else named.find? (·.name = name)

end ErrorKind

/-- An error with its text and, if it was raised because of another one, the kind and the text of
that. -/
structure Failure where
  kind : ErrorKind
  text : String
  cause : Option (ErrorKind × String)
  deriving DecidableEq, Repr

namespace Failure

def flow (kind : FlowErrorKind) (text : String) : Failure := ⟨.flow kind, text, none⟩

def operation (kind : OperationErrorKind) (text : String) : Failure := ⟨.operation kind, text, none⟩

def general (kind : GeneralErrorKind) (text : String) : Failure := ⟨.general kind, text, none⟩

/-- A failure of a kind with a message. One about a missing key shows it in quotes. -/
def ofMessage (kind : ErrorKind) (message : String) : Failure :=
  ⟨kind, if kind = .general .key then Text.quoted message else message, none⟩

/-- The failure to write a text that has no form in bytes. -/
def unencodable (t : Text.Torn) : Failure := .general .unicodeEncode t.unencodable

/-- A failure of the flow family because of another failure. -/
def flowFrom (kind : FlowErrorKind) (text : String) (cause : Failure) : Failure :=
  ⟨.flow kind, text, some (cause.kind, cause.text)⟩

/-- The line that a log shows for an attached error. -/
def logLine (f : Failure) : String :=
  if f.text.isEmpty then f.kind.fullName else f.kind.fullName ++ ": " ++ f.text

end Failure

end Flowline
