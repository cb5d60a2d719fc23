import UsbTransfer.UsbError
import UsbTransfer.Wire.Endpoint

namespace UsbTransfer

inductive HostError where
  | usb (error : UsbError)
  | missingContract (kind : TransferKind)
  | notInitialized
  | invalidHandle
  | channel (reason : String)
  | config (reason : String)
  | io (reason : String)
  | other (reason : String)
  deriving DecidableEq, Repr

namespace HostError

def name : HostError → String
  | usb e => e.name
  | missingContract _ => "MissingContract"
  | notInitialized => "NotInitialized"
  | invalidHandle => "InvalidHandle"
  | channel _ => "Channel"
  | config _ => "Config"
  | io _ => "Io"
  | other _ => "Other"

def message : HostError → String
  | usb e => "USB error: " ++ e.message
  | missingContract k => "No completion contract registered for " ++ k.label ++ " transfers"
  | notInitialized => "Completion callbacks have not been initialized"
  | invalidHandle => "Invalid or closed device handle"
  | channel r => "Channel error: " ++ r
  | config r => "Configuration error: " ++ r
  | io r => "IO error: " ++ r
  | other r => "Other error: " ++ r

def messages (e : HostError) : List String :=
  e.message :: match e with
    | usb u => [u.message]
    | io r => [r]
    | _ => []

def usbError : HostError → UsbError
  | usb e => e
  | missingContract _ | notInitialized => .notSupported
  | invalidHandle => .invalidParam
  | channel _ | config _ | io _ | other _ => .other

def code (e : HostError) : Int := e.usbError.code

def usb? : HostError → Option UsbError
  | usb e => some e
  | _ => none

end HostError

end UsbTransfer
