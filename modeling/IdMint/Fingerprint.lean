import IdMint.Platform
import IdMint.Environment

/-!
# Fingerprints of a host

A fingerprint is the host name in UTF-8, the process id as four little-endian
bytes and the serialised environment, one after another. Where the platform has
no host name to offer, a random hexadecimal one takes its place.
-/

namespace IdMint.Fingerprint

/-- How many random bytes a substitute host name is made of. -/
def substituteBytes : Nat := 8

/-- A random host name of hexadecimal digits. -/
def randomHostName : Act Platform Text := do
  let bytes ← Platform.randomBytes substituteBytes
  pure bytes.hex

/-- Notes down why there is no host name, and makes one up. -/
def substituteHostName (reason : Text) : Act Platform Text := do
  Act.note .warning "hostname_lookup_failed" [("error", .text reason)]
  randomHostName

/-- The host name. A refusal by the operating system and an empty name are made
up for; any other failure is passed on. -/
def resolveHostName : Act Platform Text := do
  match ← Act.attempt Platform.lookUpHostName with
  | .error fault =>
    if fault.isSystemRefusal then substituteHostName fault.message else Act.fail fault
  | .ok name => if name.isEmpty then substituteHostName "empty hostname" else pure name

/-- The bytes of a fingerprint. -/
def compute : Act Platform Bytes := do
  let name ← resolveHostName
  let host ← Act.ofExcept (Environment.encode name)
  let platform ← Act.state
  let environment ← Platform.readEnvironment
  let settings ← Act.ofExcept (Environment.serialize environment)
  pure (host ++ Bytes.pack32 platform.processId ++ settings)

end IdMint.Fingerprint
