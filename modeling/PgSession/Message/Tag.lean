/-! The first byte of a message says which message it is. Both directions of a conversation share
one table of names; a byte outside it is still a tag, only an unknown one. -/

namespace PgSession.Tag

def authentication : UInt8 := 'R'.toUInt8
def keyData : UInt8 := 'K'.toUInt8
def readyForQuery : UInt8 := 'Z'.toUInt8
def parameterStatus : UInt8 := 'S'.toUInt8
def notification : UInt8 := 'A'.toUInt8
def notice : UInt8 := 'N'.toUInt8
def errorResponse : UInt8 := 'E'.toUInt8
def password : UInt8 := 'p'.toUInt8
def terminate : UInt8 := 'X'.toUInt8

def names : List (Char × String) :=
  [('R', "Authentication"), ('K', "BackendKeyData"), ('2', "BindComplete"), ('3', "CloseComplete"),
    ('C', "CommandComplete"), ('d', "CopyData"), ('c', "CopyDone"), ('G', "CopyInResponse"),
    ('H', "CopyOutResponse"), ('W', "CopyBothResponse"), ('D', "DataRow"),
    ('I', "EmptyQueryResponse"), ('E', "ErrorResponse"), ('v', "NegotiateProtocolVersion"),
    ('n', "NoData"), ('N', "NoticeResponse"), ('A', "NotificationResponse"),
    ('t', "ParameterDescription"), ('S', "ParameterStatus"), ('1', "ParseComplete"),
    ('s', "PortalSuspended"), ('Z', "ReadyForQuery"), ('T', "RowDescription")]

def name (tag : UInt8) : String :=
  ((names.find? fun entry => entry.1.toUInt8 == tag).map (·.2)).getD "Unknown"

end PgSession.Tag
