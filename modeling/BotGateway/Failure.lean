import BotGateway.Schema.Issue
import BotGateway.Text.Utf8
import BotGateway.Value.Document
import BotGateway.Value.Template

/-! Everything that can go wrong, by cause, with the text and the kind of each. -/
namespace BotGateway

inductive Failure.Kind where
  | runtime
  | value
  | key
  | type
  | os
  | connection
  | connectionReset
  | overflow
  | unicode
  | validation
  | keyboardInterrupt
  | systemExit
  | sdk
  | encode
  | transport
  | decode
  | unknownVariant
  | api
  | webhook
  | webhookAuth
  | webhookIO
  | updatesStopped
  | webhookStopped
  | network
  | queueEmpty
  | suspended
  deriving DecidableEq, Repr

namespace Failure.Kind

def names : List (Failure.Kind × String) := [
  (.runtime,"RuntimeError"),(.value,"ValueError"),(.key,"KeyError"),(.type,"TypeError"),
  (.os,"OSError"),(.connection,"ConnectionError"),(.connectionReset,"ConnectionResetError"),
  (.overflow,"OverflowError"),(.unicode,"UnicodeEncodeError"),(.validation,"ValidationError"),
  (.keyboardInterrupt,"KeyboardInterrupt"),(.systemExit,"SystemExit"),(.sdk,"SDKException"),
  (.encode,"EncodeError"),(.transport,"TransportError"),(.decode,"DecodeError"),
  (.unknownVariant,"UnknownVariant"),(.api,"APIError"),(.webhook,"WebhookError"),
  (.webhookAuth,"WebhookAuthError"),(.webhookIO,"WebhookIOError"),
  (.updatesStopped,"UpdatesStopped"),(.webhookStopped,"WebhookStopped"),
  (.network,"RequestException"),(.queueEmpty,"Empty")]

def name (kind : Failure.Kind) : Text := ((names.lookup kind).getD "" : String)

def ofName? (name : Text) : Option Failure.Kind :=
  (names.find? fun (_,known) => (known : Text) == name).map (·.1)

def family : Failure.Kind → Text
  | .sdk | .encode | .transport | .decode | .unknownVariant | .api => "tgsdk.exceptions."
  | .webhook | .webhookAuth | .webhookIO => "tghook.ingress."
  | .updatesStopped => "tgsdk.updates."
  | .webhookStopped => "tghook.updates."
  | .network => "requests.exceptions."
  | .queueEmpty => "_queue."
  | _ => []

def fullName (kind : Failure.Kind) : Text := family kind ++ name kind

/-- Interrupts and exits pass through every handler of ordinary failures. So does the sign of a call
that is suspended: it has not failed, and goes on later. -/
def isOrdinary (kind : Failure.Kind) : Bool :=
  kind != .keyboardInterrupt && kind != .systemExit && kind != .suspended

def isSdk (kind : Failure.Kind) : Bool :=
  [.sdk,.encode,.transport,.decode,.unknownVariant,.api].contains kind

def isInput (kind : Failure.Kind) : Bool :=
  [.os,.connection,.connectionReset,.network,.value,.unicode,.validation].contains kind

end Failure.Kind

structure RetryHint where
  migrateToChatId : Option Int
  retryAfter : Option Int
  deriving DecidableEq, Repr

structure ApiError where
  code : Int
  description : Text
  hint : Option RetryHint
  deriving DecidableEq, Repr

namespace ApiError

def message (error : ApiError) : Text :=
  Numeral.ofInt error.code ++ " " ++ Json.quote error.description ++
    match error.hint with
    | none => []
    | some hint =>
      " migrate to chat id: " ++ Numeral.ofInt (hint.migrateToChatId.getD 0) ++
        ", retry after: " ++ Numeral.ofInt (hint.retryAfter.getD 0)

end ApiError

inductive CallFault where
  | unknownName (name : Text)
  | givenTwice (name : Text)
  | tooMany (least most given : Nat)
  | missing (names : List Text)
  deriving DecidableEq, Repr

namespace CallFault

def enumerated : List Text → Text
  | [] => []
  | [name] => Quoted.text name
  | [first,second] => Quoted.text first ++ " and " ++ Quoted.text second
  | names => Text.join ", " (names.dropLast.map Quoted.text) ++ ", and " ++
      Quoted.text (names.getLast?.getD [])

def plural (n : Nat) : Text := if n = 1 then [] else "s"

def message : CallFault → Text
  | .unknownName name => "got an unexpected keyword argument '" ++ name ++ "'"
  | .givenTwice name => "got multiple values for argument '" ++ name ++ "'"
  | .tooMany least most given =>
    "takes " ++ (if least = most then Numeral.ofNat most ++ " positional argument" ++ plural most
      else "from " ++ Numeral.ofNat least ++ " to " ++ Numeral.ofNat most ++
        " positional arguments") ++ " but " ++ Numeral.ofNat given ++ " were given"
  | .missing names =>
    "missing " ++ Numeral.ofNat names.length ++ " required positional argument" ++
      plural names.length ++ ": " ++ enumerated names

end CallFault

inductive Failure where
  | raised (kind : Failure.Kind) (message : Text)
  | invalid (report : Report)
  | unwritable (cause : Value.Unwritable)
  | unencodable (found : Utf8.LoneSurrogates)
  | documentBody (cause : Failure)
  | multipartBody (cause : Failure)
  | fileUnreadable (part : Text) (cause : Failure)
  | fileNotBytes (part typeName : Text)
  | networkDown (detail : Text)
  | serverError (status : Int)
  | badEnvelope (report : Report)
  | badResult (type : Text) (report : Report)
  | unknownTag (set field : Text) (value : Value) (shown : Text)
  | notObject (set typeName : Text)
  | notArray (set typeName : Text)
  | badVariant (set kind : Text) (report : Report)
  | malformedVariant (set : Text)
  | noTagDefault (kind field : Text)
  | tagTaken (set tag : Text)
  | noVariants (set : Text)
  | api (error : ApiError)
  | badToken
  | badCall (method : Text) (fault : CallFault)
  | badAddress (address : Text)
  | badNumeral (base : Nat) (quoted : Text)
  | longNumeral (digits : Nat)
  | sizeOverflow
  | negativeLength (length : Int)
  | bodyTruncated (got : Nat) (wanted : Int)
  | sizeLineTruncated
  | negativeChunk (size : Int)
  | bodyTooLarge (limit : Nat)
  | chunkTruncated (got : Nat) (wanted : Int)
  | chunkUnended
  | trailerTruncated
  | secretMismatch
  | bodyUnreadable (cause : Failure)
  | alreadyStarted
  | notRunning
  | unknownBackend (name : Text)
  | queueStopped (byWebhook : Bool)
  | webhookClosed
  | nothingArrived
  | queueFull
  | badUpdate (report : Report)
  | negativeInterval (value : Text)
  | negativeRetry (value : Text)
  | pollingStarted
  | negativeSeek (offset : Int)
  | badWhence (whence : Int)
  | positionTooLarge
  | offsetTooLarge
  | whenceTooLarge
  | notReadSize (typeName : Text)
  | notInteger (typeName : Text)
  | unordered (typeName : Text)
  | notIterable (typeName : Text)
  | template (fault : Template.Fault)
  | attributeTaken (name : Text)
  | yearOutOfRange (year : Int)
  | tokenMissing
  deriving Repr

namespace Report

def headline (report : Report) : Text :=
  Numeral.ofNat report.issues.length ++
    (if report.issues.length = 1 then " validation error for " else " validation errors for ") ++
    report.title

end Report

namespace Failure

def unwritableText : Value.Unwritable → Text
  | .value typeName => "Object of type " ++ typeName ++ " is not JSON serializable"
  | .key typeName => "keys must be str, int, float, bool or None, not " ++ typeName
  | .longInteger => Numeral.limitText ++ Numeral.adviceText

def unencodableText (found : Utf8.LoneSurrogates) : Text :=
  "'utf-8' codec can't encode character" ++
    (if found.count = 1 then
      " '" ++ Quoted.escaped found.first ++ "' in position " ++ Numeral.ofNat found.start
    else
      "s in position " ++ Numeral.ofNat found.start ++ "-" ++
        Numeral.ofNat (found.start + found.count - 1)) ++
    ": surrogates not allowed"

def message : Failure → Text
  | .raised .key message => Quoted.text message
  | .raised _ message => message
  | .invalid report => report.headline
  | .unwritable cause => unwritableText cause
  | .unencodable found => unencodableText found
  | .documentBody cause => "encode json: " ++ cause.message
  | .multipartBody cause => "build multipart body: " ++ cause.message
  | .fileUnreadable part cause =>
    "read file for part " ++ Quoted.text part ++ ": " ++ cause.message
  | .fileNotBytes part typeName =>
    "read file for part " ++ Quoted.text part ++ ": expected bytes, got " ++ typeName
  | .networkDown detail => "http do request: " ++ detail
  | .serverError status => "internal server error: " ++ Numeral.ofInt status
  | .badEnvelope report => "decode envelope: " ++ report.headline
  | .badResult type report => "decode result as " ++ type ++ ": " ++ report.headline
  | .unknownTag set field _ shown => "unknown " ++ set ++ " " ++ field ++ ": " ++ shown
  | .notObject set typeName => set ++ ": expected an object, got " ++ typeName
  | .notArray set typeName => set ++ ": expected an array, got " ++ typeName
  | .badVariant set kind report => set ++ ": invalid " ++ kind ++ ": " ++ report.headline
  | .malformedVariant set => set ++ ": malformed JSON"
  | .noTagDefault kind field =>
    kind ++ " must declare a string default for " ++ Quoted.text field
  | .tagTaken set tag => set ++ " variant " ++ Quoted.text tag ++ " already registered"
  | .noVariants set => set ++ " has no registered variants"
  | .api error => error.message
  | .badToken => "invalid bot token"
  | .badCall method fault => "BotClient." ++ method ++ "() " ++ fault.message
  | .badAddress address =>
    "invalid webhook address " ++ Quoted.text address ++ ", expected 'host:port'"
  | .badNumeral base quoted =>
    "invalid literal for int() with base " ++ Numeral.ofNat base ++ ": " ++ quoted.take 200
  | .longNumeral digits =>
    Numeral.limitText ++ ": value has " ++ Numeral.ofNat digits ++ " digits" ++
      Numeral.adviceText
  | .sizeOverflow => "cannot fit 'int' into an index-sized integer"
  | .negativeLength length => "negative content length " ++ Numeral.ofInt length
  | .bodyTruncated got wanted =>
    "body truncated: got " ++ Numeral.ofNat got ++ " of " ++ Numeral.ofInt wanted ++ " bytes"
  | .sizeLineTruncated => "chunked body truncated in size line"
  | .negativeChunk size => "negative chunk size " ++ Numeral.ofInt size
  | .bodyTooLarge limit => "chunked body larger than " ++ Numeral.ofNat limit ++ " bytes"
  | .chunkTruncated got wanted =>
    "chunk truncated: got " ++ Numeral.ofNat got ++ " of " ++ Numeral.ofInt wanted ++ " bytes"
  | .chunkUnended => "missing CRLF after chunk data"
  | .trailerTruncated => "chunked body truncated in trailer"
  | .secretMismatch => "secret token mismatch"
  | .bodyUnreadable cause => "read body: " ++ cause.message
  | .alreadyStarted => "server already started"
  | .notRunning => "server is not running"
  | .unknownBackend name =>
    "unknown webhook backend " ++ Quoted.text name ++
      ", expected one of ['aiohttp', 'fastapi', 'http']"
  | .queueStopped _ => "updates stopped"
  | .webhookClosed => "webhook stopped"
  | .nothingArrived | .queueFull => []
  | .badUpdate report => "webhook decoding update: " ++ report.headline
  | .negativeInterval value => "update interval is negative: " ++ value
  | .negativeRetry value => "retry timeout is negative: " ++ value
  | .pollingStarted => "long polling already running"
  | .negativeSeek offset => "negative seek value " ++ Numeral.ofInt offset
  | .badWhence whence => "invalid whence (" ++ Numeral.ofInt whence ++ ", should be 0, 1 or 2)"
  | .positionTooLarge => "new position too large"
  | .offsetTooLarge => "Python int too large to convert to C ssize_t"
  | .whenceTooLarge => "Python int too large to convert to C int"
  | .notReadSize typeName => "argument should be integer or None, not " ++ Quoted.text typeName
  | .notInteger typeName => Quoted.text typeName ++ " object cannot be interpreted as an integer"
  | .notIterable typeName => Quoted.text typeName ++ " object is not iterable"
  | .unordered typeName =>
    "'<' not supported between instances of " ++ Quoted.text typeName ++ " and 'int'"
  | .template fault => fault.message
  | .attributeTaken name =>
    Quoted.text ("Attempt to overwrite " ++ Quoted.text name ++ " in LogRecord")
  | .yearOutOfRange year => "year " ++ Numeral.ofInt year ++ " is out of range"
  | .tokenMissing => "BOT_TOKEN is not set"

def templateKind : Template.Fault → Kind
  | .noMember _ => .key
  | .incomplete | .incompleteKey | .widthTooBig | .precisionTooBig | .unsupported ..
  | .nanToInteger | .longInteger => .value
  | .noSuchCharacter | .infinityToInteger | .tooLargeForBinary | .widthOverflow
  | .precisionOverflow => .overflow
  | _ => .type

def kind : Failure → Kind
  | .raised kind _ => kind
  | .invalid _ => .validation
  | .unwritable .longInteger => .value
  | .unwritable _ => .type
  | .unencodable _ => .unicode
  | .documentBody _ | .multipartBody _ | .fileUnreadable .. | .fileNotBytes .. => .encode
  | .networkDown _ | .serverError _ => .transport
  | .badEnvelope _ | .badResult .. | .notObject .. | .notArray .. | .badVariant ..
  | .malformedVariant _ | .badUpdate _ => .decode
  | .unknownTag .. => .unknownVariant
  | .noTagDefault .. | .noVariants _ => .type
  | .api _ => .api
  | .tagTaken .. | .badToken | .badAddress _ | .badNumeral .. | .longNumeral _
  | .negativeLength _ | .negativeChunk _ | .bodyTooLarge _ | .chunkUnended
  | .unknownBackend _ | .negativeInterval _ | .negativeRetry _ | .negativeSeek _
  | .badWhence _ => .value
  | .sizeOverflow | .positionTooLarge | .offsetTooLarge | .whenceTooLarge => .overflow
  | .badCall .. | .notReadSize _ | .notInteger _ | .unordered _ | .notIterable _ => .type
  | .bodyTruncated .. | .sizeLineTruncated | .chunkTruncated .. | .trailerTruncated => .connection
  | .secretMismatch => .webhookAuth
  | .bodyUnreadable _ => .webhookIO
  | .alreadyStarted | .notRunning | .pollingStarted => .runtime
  | .queueStopped byWebhook => if byWebhook then .webhookStopped else .updatesStopped
  | .webhookClosed => .webhookStopped
  | .nothingArrived => .queueEmpty
  | .queueFull => .suspended
  | .template fault => templateKind fault
  | .attributeTaken _ => .key
  | .yearOutOfRange _ => .value
  | .tokenMissing => .systemExit

def report? : Failure → Option Report
  | .invalid report | .badEnvelope report | .badResult _ report | .badVariant _ _ report
  | .badUpdate report => some report
  | _ => none

def numeral (base : Nat) (quoted : Text) : Numeral.Fault → Failure
  | .invalid => .badNumeral base quoted
  | .tooLong digits => .longNumeral digits

def status? : Failure → Option Int
  | .serverError status => some status
  | _ => none

end Failure
end BotGateway
