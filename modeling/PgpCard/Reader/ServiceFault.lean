/-!
# `PgpCard.Reader.ServiceFault`: the error codes of the PC/SC service

The PC/SC standard gives every failure of the service a 32-bit code. This module lists the
codes with the names and the texts they are known by.
-/

set_option autoImplicit false

namespace PgpCard

/-- A failure that the PC/SC service reports. -/
inductive ServiceFault where
  | internalError
  | cancelled
  | invalidHandle
  | invalidParameter
  | invalidTarget
  | noMemory
  | waitedTooLong
  | insufficientBuffer
  | unknownReader
  | timeout
  | sharingViolation
  | noSmartcard
  | unknownCard
  | cantDispose
  | protoMismatch
  | notReady
  | invalidValue
  | systemCancelled
  | commError
  | unknownError
  | invalidAtr
  | notTransacted
  | readerUnavailable
  | shutdown
  | pciTooSmall
  | readerUnsupported
  | duplicateReader
  | cardUnsupported
  | noService
  | serviceStopped
  | unsupportedFeature
  | iccInstallation
  | iccCreateorder
  | dirNotFound
  | fileNotFound
  | noDir
  | noFile
  | noAccess
  | writeTooMany
  | badSeek
  | invalidChv
  | unknownResMng
  | noSuchCertificate
  | certificateUnavailable
  | noReadersAvailable
  | commDataLost
  | noKeyContainer
  | serverTooBusy
  | unsupportedCard
  | unresponsiveCard
  | unpoweredCard
  | resetCard
  | removedCard
  | securityViolation
  | wrongChv
  | chvBlocked
  | eof
  | cancelledByUser
  | cardNotAuthenticated
  | cacheItemNotFound
  | cacheItemStale
  | cacheItemTooBig
  deriving DecidableEq, Repr

namespace ServiceFault

/-- All failures, by code. -/
def all : List ServiceFault :=
  [.internalError, .cancelled, .invalidHandle, .invalidParameter, .invalidTarget, .noMemory,
    .waitedTooLong, .insufficientBuffer, .unknownReader, .timeout, .sharingViolation,
    .noSmartcard, .unknownCard, .cantDispose, .protoMismatch, .notReady, .invalidValue,
    .systemCancelled, .commError, .unknownError, .invalidAtr, .notTransacted,
    .readerUnavailable, .shutdown, .pciTooSmall, .readerUnsupported, .duplicateReader,
    .cardUnsupported, .noService, .serviceStopped, .unsupportedFeature, .iccInstallation,
    .iccCreateorder, .dirNotFound, .fileNotFound, .noDir, .noFile, .noAccess, .writeTooMany,
    .badSeek, .invalidChv, .unknownResMng, .noSuchCertificate, .certificateUnavailable,
    .noReadersAvailable, .commDataLost, .noKeyContainer, .serverTooBusy, .unsupportedCard,
    .unresponsiveCard, .unpoweredCard, .resetCard, .removedCard, .securityViolation, .wrongChv,
    .chvBlocked, .eof, .cancelledByUser, .cardNotAuthenticated, .cacheItemNotFound,
    .cacheItemStale, .cacheItemTooBig]

/-- The name of the failure. -/
def name : ServiceFault → String
  | .internalError => "InternalError"
  | .cancelled => "Cancelled"
  | .invalidHandle => "InvalidHandle"
  | .invalidParameter => "InvalidParameter"
  | .invalidTarget => "InvalidTarget"
  | .noMemory => "NoMemory"
  | .waitedTooLong => "WaitedTooLong"
  | .insufficientBuffer => "InsufficientBuffer"
  | .unknownReader => "UnknownReader"
  | .timeout => "Timeout"
  | .sharingViolation => "SharingViolation"
  | .noSmartcard => "NoSmartcard"
  | .unknownCard => "UnknownCard"
  | .cantDispose => "CantDispose"
  | .protoMismatch => "ProtoMismatch"
  | .notReady => "NotReady"
  | .invalidValue => "InvalidValue"
  | .systemCancelled => "SystemCancelled"
  | .commError => "CommError"
  | .unknownError => "UnknownError"
  | .invalidAtr => "InvalidAtr"
  | .notTransacted => "NotTransacted"
  | .readerUnavailable => "ReaderUnavailable"
  | .shutdown => "Shutdown"
  | .pciTooSmall => "PciTooSmall"
  | .readerUnsupported => "ReaderUnsupported"
  | .duplicateReader => "DuplicateReader"
  | .cardUnsupported => "CardUnsupported"
  | .noService => "NoService"
  | .serviceStopped => "ServiceStopped"
  | .unsupportedFeature => "UnsupportedFeature"
  | .iccInstallation => "IccInstallation"
  | .iccCreateorder => "IccCreateorder"
  | .dirNotFound => "DirNotFound"
  | .fileNotFound => "FileNotFound"
  | .noDir => "NoDir"
  | .noFile => "NoFile"
  | .noAccess => "NoAccess"
  | .writeTooMany => "WriteTooMany"
  | .badSeek => "BadSeek"
  | .invalidChv => "InvalidChv"
  | .unknownResMng => "UnknownResMng"
  | .noSuchCertificate => "NoSuchCertificate"
  | .certificateUnavailable => "CertificateUnavailable"
  | .noReadersAvailable => "NoReadersAvailable"
  | .commDataLost => "CommDataLost"
  | .noKeyContainer => "NoKeyContainer"
  | .serverTooBusy => "ServerTooBusy"
  | .unsupportedCard => "UnsupportedCard"
  | .unresponsiveCard => "UnresponsiveCard"
  | .unpoweredCard => "UnpoweredCard"
  | .resetCard => "ResetCard"
  | .removedCard => "RemovedCard"
  | .securityViolation => "SecurityViolation"
  | .wrongChv => "WrongChv"
  | .chvBlocked => "ChvBlocked"
  | .eof => "Eof"
  | .cancelledByUser => "CancelledByUser"
  | .cardNotAuthenticated => "CardNotAuthenticated"
  | .cacheItemNotFound => "CacheItemNotFound"
  | .cacheItemStale => "CacheItemStale"
  | .cacheItemTooBig => "CacheItemTooBig"

/-- The low half of the code; the high half is `8010` for all of them. -/
def offset : ServiceFault → UInt32
  | .internalError => 0x01
  | .cancelled => 0x02
  | .invalidHandle => 0x03
  | .invalidParameter => 0x04
  | .invalidTarget => 0x05
  | .noMemory => 0x06
  | .waitedTooLong => 0x07
  | .insufficientBuffer => 0x08
  | .unknownReader => 0x09
  | .timeout => 0x0A
  | .sharingViolation => 0x0B
  | .noSmartcard => 0x0C
  | .unknownCard => 0x0D
  | .cantDispose => 0x0E
  | .protoMismatch => 0x0F
  | .notReady => 0x10
  | .invalidValue => 0x11
  | .systemCancelled => 0x12
  | .commError => 0x13
  | .unknownError => 0x14
  | .invalidAtr => 0x15
  | .notTransacted => 0x16
  | .readerUnavailable => 0x17
  | .shutdown => 0x18
  | .pciTooSmall => 0x19
  | .readerUnsupported => 0x1A
  | .duplicateReader => 0x1B
  | .cardUnsupported => 0x1C
  | .noService => 0x1D
  | .serviceStopped => 0x1E
  | .unsupportedFeature => 0x1F
  | .iccInstallation => 0x20
  | .iccCreateorder => 0x21
  | .dirNotFound => 0x23
  | .fileNotFound => 0x24
  | .noDir => 0x25
  | .noFile => 0x26
  | .noAccess => 0x27
  | .writeTooMany => 0x28
  | .badSeek => 0x29
  | .invalidChv => 0x2A
  | .unknownResMng => 0x2B
  | .noSuchCertificate => 0x2C
  | .certificateUnavailable => 0x2D
  | .noReadersAvailable => 0x2E
  | .commDataLost => 0x2F
  | .noKeyContainer => 0x30
  | .serverTooBusy => 0x31
  | .unsupportedCard => 0x65
  | .unresponsiveCard => 0x66
  | .unpoweredCard => 0x67
  | .resetCard => 0x68
  | .removedCard => 0x69
  | .securityViolation => 0x6A
  | .wrongChv => 0x6B
  | .chvBlocked => 0x6C
  | .eof => 0x6D
  | .cancelledByUser => 0x6E
  | .cardNotAuthenticated => 0x6F
  | .cacheItemNotFound => 0x70
  | .cacheItemStale => 0x71
  | .cacheItemTooBig => 0x72

/-- The code of the failure. -/
def code (f : ServiceFault) : UInt32 := 0x80100000 + f.offset

/-- The failure in words. -/
def message : ServiceFault → String
  | .internalError => "An internal consistency check failed"
  | .cancelled => "The action was cancelled by an SCardCancel request"
  | .invalidHandle => "The supplied handle was invalid"
  | .invalidParameter => "One or more of the supplied parameters could not be properly interpreted"
  | .invalidTarget => "Registry startup information is missing or invalid"
  | .noMemory => "Not enough memory available to complete this command"
  | .waitedTooLong => "An internal consistency timer has expired"
  | .insufficientBuffer =>
    "The data buffer to receive returned data is too small for the returned data"
  | .unknownReader => "The specified reader name is not recognized"
  | .timeout => "The user-specified timeout value has expired"
  | .sharingViolation =>
    "The smart card cannot be accessed because of other connections outstanding"
  | .noSmartcard =>
    "The operation requires a Smart Card, but no Smart Card is currently in the device"
  | .unknownCard => "The specified smart card name is not recognized"
  | .cantDispose => "The system could not dispose of the media in the requested manner"
  | .protoMismatch =>
    "The requested protocols are incompatible with the protocol currently in use with the smart card"
  | .notReady => "The reader or smart card is not ready to accept commands"
  | .invalidValue =>
    "One or more of the supplied parameters values could not be properly interpreted"
  | .systemCancelled => "The action was cancelled by the system, presumably to log off or shut down"
  | .commError => "An internal communications error has been detected"
  | .unknownError => "An internal error has been detected, but the source is unknown"
  | .invalidAtr => "An ATR obtained from the registry is not a valid ATR string"
  | .notTransacted => "An attempt was made to end a non-existent transaction"
  | .readerUnavailable => "The specified reader is not currently available for use"
  | .shutdown => "The operation has been aborted to allow the server application to exit"
  | .pciTooSmall => "The PCI Receive buffer was too small"
  | .readerUnsupported => "The reader driver does not meet minimal requirements for support"
  | .duplicateReader => "The reader driver did not produce a unique reader name"
  | .cardUnsupported => "The smart card does not meet minimal requirements for support"
  | .noService => "The Smart card resource manager is not running"
  | .serviceStopped => "The Smart card resource manager has shut down"
  | .unsupportedFeature => "This smart card does not support the requested feature"
  | .iccInstallation => "No primary provider can be found for the smart card"
  | .iccCreateorder => "The requested order of object creation is not supported"
  | .dirNotFound => "The identified directory does not exist in the smart card"
  | .fileNotFound => "The identified file does not exist in the smart card"
  | .noDir => "The supplied path does not represent a smart card directory"
  | .noFile => "The supplied path does not represent a smart card file"
  | .noAccess => "Access is denied to this file"
  | .writeTooMany => "The smart card does not have enough memory to store the information"
  | .badSeek => "There was an error trying to set the smart card file object pointer"
  | .invalidChv => "The supplied PIN is incorrect"
  | .unknownResMng => "An unrecognized error code was returned from a layered component"
  | .noSuchCertificate => "The requested certificate does not exist"
  | .certificateUnavailable => "The requested certificate could not be obtained"
  | .noReadersAvailable => "Cannot find a smart card reader"
  | .commDataLost =>
    "A communications error with the smart card has been detected. Retry the operation"
  | .noKeyContainer => "The requested key container does not exist on the smart card"
  | .serverTooBusy => "The smart card resource manager is too busy to complete this operation"
  | .unsupportedCard =>
    "The reader cannot communicate with the card, due to ATR string configuration conflicts"
  | .unresponsiveCard => "The smart card is not responding to a reset"
  | .unpoweredCard =>
    "Power has been removed from the smart card, so that further communication is not possible"
  | .resetCard => "The smart card has been reset, so any shared state information is invalid"
  | .removedCard => "The smart card has been removed, so further communication is not possible"
  | .securityViolation => "Access was denied because of a security violation"
  | .wrongChv => "The card cannot be accessed because the wrong PIN was presented"
  | .chvBlocked =>
    "The card cannot be accessed because the maximum number of PIN entry attempts has been reached"
  | .eof => "The end of the smart card file has been reached"
  | .cancelledByUser => "The user pressed \"Cancel\" on a Smart Card Selection Dialog"
  | .cardNotAuthenticated => "No PIN was presented to the smart card"
  | .cacheItemNotFound => "The requested item could not be found in the cache"
  | .cacheItemStale => "The requested cache item is too old and was deleted from the cache"
  | .cacheItemTooBig => "The new cache item exceeds the maximum per-item size defined for the cache"

/-- The failure of this name. -/
def ofName? (name : String) : Option ServiceFault :=
  all.find? (·.name == name)

end ServiceFault

end PgpCard
