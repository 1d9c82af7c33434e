import Mathlib.Data.UInt

/-! # Socket addresses

The socket address types of the standard library and of `wasi:sockets`, the address text
grammar `connect` reads `ip` entries with, and the synthetic standin addresses of the relay
and channel wires. -/

namespace IrohEndpoint

structure Ipv4Addr where
  a : UInt8
  b : UInt8
  c : UInt8
  d : UInt8
  deriving DecidableEq, Repr

structure Ipv6Addr where
  s0 : UInt16
  s1 : UInt16
  s2 : UInt16
  s3 : UInt16
  s4 : UInt16
  s5 : UInt16
  s6 : UInt16
  s7 : UInt16
  deriving DecidableEq, Repr

inductive SocketAddr where
  | v4 (ip : Ipv4Addr) (port : UInt16)
  | v6 (ip : Ipv6Addr) (port : UInt16) (flowinfo : UInt32) (scopeId : UInt32)
  deriving DecidableEq, Repr

/-! ## The addresses of `wasi:sockets` -/

structure Ipv4SocketAddress where
  port : UInt16
  address : UInt8 × UInt8 × UInt8 × UInt8

structure Ipv6SocketAddress where
  port : UInt16
  flowInfo : UInt32
  address : UInt16 × UInt16 × UInt16 × UInt16 × UInt16 × UInt16 × UInt16 × UInt16
  scopeId : UInt32

inductive IpSocketAddress where
  | ipv4 (socket : Ipv4SocketAddress)
  | ipv6 (socket : Ipv6SocketAddress)

/-! ## Standins -/

/-- A synthetic socket address under the IPv6 documentation prefix:
`2001:db8:<space>::<hi>:<lo>`, port 4433. -/
def docPrefixAddr (space : UInt16) (host : UInt32) : SocketAddr :=
  .v6 ⟨0x2001, 0xdb8, space, 0, 0, 0, (host >>> 16).toUInt16, host.toUInt16⟩ 4433 0 0

theorem docPrefixAddr_injective (space : UInt16) :
    Function.Injective (docPrefixAddr space) := by
  intro left right equal
  simp only [docPrefixAddr, SocketAddr.v6.injEq, Ipv6Addr.mk.injEq, true_and,
    and_true] at equal
  rcases equal with ⟨high, low⟩
  have highNat := congrArg UInt16.toNat high
  have lowNat := congrArg UInt16.toNat low
  simp only [UInt32.toNat_toUInt16, UInt32.toNat_shiftRight, UInt32.reduceToNat,
    Nat.reduceMod, Nat.shiftRight_eq_div_pow, Nat.reducePow] at highNat lowNat
  have leftBound := left.toNat_lt
  have rightBound := right.toNat_lt
  apply UInt32.toNat_inj.mp
  omega

/-! ## Address text -/

namespace AddrParser

/-- A reader over the remaining characters; `none` leaves the input unread. -/
abbrev Reader (α : Type) := List Char → Option (α × List Char)

def toDigit (radix : Nat) (character : Char) : Option Nat :=
  let value :=
    if '0' ≤ character ∧ character ≤ '9' then some (character.toNat - '0'.toNat)
    else if 'a' ≤ character ∧ character ≤ 'z' then
      some (character.toNat - 'a'.toNat + 10)
    else if 'A' ≤ character ∧ character ≤ 'Z' then
      some (character.toNat - 'A'.toNat + 10)
    else none
  value.filter (· < radix)

def digits (radix : Nat) : List Char → List Nat × List Char
  | [] => ([], [])
  | character :: rest =>
      match toDigit radix character with
      | none => ([], character :: rest)
      | some digit =>
          let (more, remaining) := digits radix rest
          (digit :: more, remaining)

/-- A number below `bound`: at least one digit, at most `maxDigits` of them, and
a leading zero only where it is allowed. -/
def readNumber (radix : Nat) (maxDigits : Option Nat) (allowZeroPrefix : Bool)
    (bound : Nat) : Reader Nat := fun input =>
  let (read, rest) := digits radix input
  let value := read.foldl (fun total digit => total * radix + digit) 0
  if read.isEmpty then none
  else if maxDigits.any (· < read.length) then none
  else if !allowZeroPrefix && read.head? = some 0 && decide (1 < read.length) then none
  else if value < bound then some (value, rest) else none

def readGivenChar (expected : Char) : Reader Unit
  | character :: rest => if character = expected then some ((), rest) else none
  | [] => none

/-- `inner`, preceded by `separator` unless this is the first item. -/
def readSeparator {α : Type} (separator : Char) (index : Nat) (inner : Reader α) :
    Reader α := fun input =>
  if index = 0 then inner input
  else do
    let ((), rest) ← readGivenChar separator input
    inner rest

def readIpv4Addr : Reader Ipv4Addr := fun input => do
  let octet := readNumber 10 (some 3) false 256
  let (a, rest) ← readSeparator '.' 0 octet input
  let (b, rest) ← readSeparator '.' 1 octet rest
  let (c, rest) ← readSeparator '.' 2 octet rest
  let (d, rest) ← readSeparator '.' 3 octet rest
  some (⟨.ofNat a, .ofNat b, .ofNat c, .ofNat d⟩, rest)

/-- Up to `slots` groups from position `index`; an embedded IPv4 address takes
two slots and ends the groups. -/
def readGroups : (slots index : Nat) → List Char → List UInt16 × Bool × List Char
  | 0, _, input => ([], false, input)
  | slots + 1, index, input =>
      let embedded :=
        if slots = 0 then none else readSeparator ':' index readIpv4Addr input
      match embedded with
      | some (ip, rest) =>
          ([ip.a.toUInt16 * 256 + ip.b.toUInt16, ip.c.toUInt16 * 256 + ip.d.toUInt16],
            true, rest)
      | none =>
          match readSeparator ':' index (readNumber 16 (some 4) true 65536) input with
          | none => ([], false, input)
          | some (group, rest) =>
              let (more, wasIpv4, remaining) := readGroups slots (index + 1) rest
              (.ofNat group :: more, wasIpv4, remaining)

def ofSegments : List UInt16 → Option Ipv6Addr
  | [s0, s1, s2, s3, s4, s5, s6, s7] => some ⟨s0, s1, s2, s3, s4, s5, s6, s7⟩
  | _ => none

def readIpv6Addr : Reader Ipv6Addr := fun input => do
  let (head, headIpv4, rest) := readGroups 8 0 input
  if head.length = 8 then
    let ip ← ofSegments head
    return (ip, rest)
  if headIpv4 then none
  let ((), rest) ← readGivenChar ':' rest
  let ((), rest) ← readGivenChar ':' rest
  let (tail, _, rest) := readGroups (7 - head.length) 0 rest
  let ip ← ofSegments
    (head ++ List.replicate (8 - head.length - tail.length) 0 ++ tail)
  return (ip, rest)

def readPort : Reader UInt16 := fun input => do
  let ((), rest) ← readGivenChar ':' input
  let (port, rest) ← readNumber 10 none true 65536 rest
  some (.ofNat port, rest)

def readScopeId : List Char → UInt32 × List Char := fun input =>
  let read : Option (Nat × List Char) := do
    let ((), rest) ← readGivenChar '%' input
    readNumber 10 none true (2 ^ 32) rest
  match read with
  | some (scope, rest) => (.ofNat scope, rest)
  | none => (0, input)

def readSocketAddrV4 : Reader SocketAddr := fun input => do
  let (ip, rest) ← readIpv4Addr input
  let (port, rest) ← readPort rest
  some (.v4 ip port, rest)

def readSocketAddrV6 : Reader SocketAddr := fun input => do
  let ((), rest) ← readGivenChar '[' input
  let (ip, rest) ← readIpv6Addr rest
  let (scope, rest) := readScopeId rest
  let ((), rest) ← readGivenChar ']' rest
  let (port, rest) ← readPort rest
  some (.v6 ip port 0 scope, rest)

end AddrParser

/-- The standard library's `SocketAddr` text grammar: the whole text must be one
IPv4 or bracketed IPv6 address with a port. -/
def SocketAddr.parse (text : String) : Option SocketAddr :=
  let input := text.toList
  match (AddrParser.readSocketAddrV4 input).orElse fun _ =>
      AddrParser.readSocketAddrV6 input with
  | some (addr, []) => some addr
  | _ => none

/-- The text of a standin parses to that standin. -/
example : SocketAddr.parse "[2001:db8:77::1]:4433" = some (docPrefixAddr 0x77 1) := by
  decide

example : SocketAddr.parse "127.0.0.1:80" = some (.v4 ⟨127, 0, 0, 1⟩ 80) := by decide

end IrohEndpoint
