import DnsForwarder.Wire.Bytes

/-!
# Record types and classes

Both travel as a number of two bytes.  The assigned numbers have mnemonics; all
unassigned types share one text and so do all unassigned classes, so the text
tells two types apart only if both are assigned.
-/

namespace DnsForwarder

structure RecordType where
  code : UInt16
deriving DecidableEq, Repr, Inhabited

namespace RecordType

def zero : RecordType := ⟨0⟩
def a : RecordType := ⟨1⟩
def ns : RecordType := ⟨2⟩
def cname : RecordType := ⟨5⟩
def soa : RecordType := ⟨6⟩
def ptr : RecordType := ⟨12⟩
def hinfo : RecordType := ⟨13⟩
def mx : RecordType := ⟨15⟩
def txt : RecordType := ⟨16⟩
def aaaa : RecordType := ⟨28⟩
def srv : RecordType := ⟨33⟩
def naptr : RecordType := ⟨35⟩
def opt : RecordType := ⟨41⟩
def ixfr : RecordType := ⟨251⟩
def axfr : RecordType := ⟨252⟩
def any : RecordType := ⟨255⟩
def aname : RecordType := ⟨65305⟩

/-- The assigned types with their mnemonics. -/
def assigned : List (UInt16 × String) :=
  [(0, "ZERO"), (1, "A"), (2, "NS"), (5, "CNAME"), (6, "SOA"), (10, "NULL"), (12, "PTR"),
   (13, "HINFO"), (15, "MX"), (16, "TXT"), (24, "SIG"), (25, "KEY"), (28, "AAAA"),
   (33, "SRV"), (35, "NAPTR"), (41, "OPT"), (43, "DS"), (44, "SSHFP"), (46, "RRSIG"),
   (47, "NSEC"), (48, "DNSKEY"), (50, "NSEC3"), (51, "NSEC3PARAM"), (52, "TLSA"),
   (59, "CDS"), (60, "CDNSKEY"), (61, "OPENPGPKEY"), (62, "CSYNC"), (64, "SVCB"),
   (65, "HTTPS"), (250, "TSIG"), (251, "IXFR"), (252, "AXFR"), (255, "ANY"), (257, "CAA"),
   (65305, "ANAME")]

def text (kind : RecordType) : String :=
  (assigned.lookup kind.code).getD "Unknown"

end RecordType

structure RecordClass where
  code : UInt16
deriving DecidableEq, Repr, Inhabited

namespace RecordClass

/-- The assigned classes with their mnemonics. -/
def assigned : List (UInt16 × String) :=
  [(1, "IN"), (3, "CH"), (4, "HS"), (254, "NONE"), (255, "ANY")]

def text (cls : RecordClass) : String :=
  (assigned.lookup cls.code).getD "UNKNOWN"

end RecordClass

end DnsForwarder
