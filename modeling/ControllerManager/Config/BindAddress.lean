import ControllerManager.Error
import ControllerManager.Net.SocketAddress
import ControllerManager.Text.Blank
import ControllerManager.Text.Decimal

/-!
# Bind addresses

Where a server listens, in the notation of the flags: `:8080` is the port on every interface,
`localhost:8080` the port on the machine itself, `0` and the empty text disable the server, and
everything else is an address with its port.

## Main definitions

* `Config.BindAddress` — where a server listens.
* `Config.BindAddress.parse` — the address that a text denotes.
-/

namespace ControllerManager.Config

/-- Where a server listens, if it does. -/
inductive BindAddress where
  | disabled
  | listen (address : Net.SocketAddress)
  deriving Repr, DecidableEq

namespace BindAddress

/-- Why a text is not a bind address. -/
inductive Fault where
  | port (fault : Text.NumberFault)
  | address
  deriving Repr, DecidableEq

/-- The failure that a fault in the text `value` means. -/
def Fault.toError (value : String) : Fault → Error
  | .port fault =>
    .configuration ("invalid port in bind address " ++ Text.quoted value ++ ": " ++ fault.message)
  | .address =>
    .configuration
      ("invalid bind address " ++ Text.quoted value ++ ": invalid socket address syntax")

/-- The least number that is no port. -/
def portBound : Nat := 1 <<< 16

/-- The port `text` on an address of four bytes. -/
def onPort (ip : Net.Ip4) (text : List Char) : Except Fault BindAddress :=
  match Text.readNumber portBound text with
  | .ok port => .ok (.listen (.v4 ip (.ofNat port)))
  | .error fault => .error (.port fault)

/-- What follows `localhost:` at the head of a text. -/
def afterLocalhost? (cs : List Char) : Option (List Char) :=
  let start := "localhost:".toList
  if start.isPrefixOf cs then some (cs.drop start.length) else none

/-- The address that a text without blanks at its ends denotes. -/
def ofTrimmed (cs : List Char) : Except Fault BindAddress :=
  if cs = [] ∨ cs = ['0'] then .ok .disabled
  else
    match cs with
    | ':' :: port => onPort .unspecified port
    | cs =>
      match afterLocalhost? cs with
      | some port => onPort .localhost port
      | none =>
        match Net.SocketAddress.parse? cs with
        | some address => .ok (.listen address)
        | none => .error .address

/-- The address that a text denotes. Blanks at its ends do not count. -/
def parse (value : String) : Except Error BindAddress :=
  let trimmed := Text.trim value
  (ofTrimmed trimmed.toList).mapError (Fault.toError trimmed)

/-- The address to listen on. -/
def socketAddress? : BindAddress → Option Net.SocketAddress
  | .disabled => none
  | .listen address => some address

end BindAddress

/-- The switch for webhooks: every value but `false` turns them on, and so does none. -/
def webhooksEnabled (value : Option String) : Bool := value != some "false"

end ControllerManager.Config
