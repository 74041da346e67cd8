/-!
# Other names of characters

Control characters and some others that are not seen have names and abbreviations apart from the
names of their own.
-/
namespace BrowserPlan.Text.CharacterName

/-- Names and abbreviations, each with its code point. -/
def otherNames : List (String × Nat) :=
  [("NULL", 0x0), ("START OF HEADING", 0x1), ("START OF TEXT", 0x2), ("END OF TEXT", 0x3),
   ("END OF TRANSMISSION", 0x4), ("ENQUIRY", 0x5), ("ACKNOWLEDGE", 0x6), ("ALERT", 0x7),
   ("BACKSPACE", 0x8), ("CHARACTER TABULATION", 0x9), ("HORIZONTAL TABULATION", 0x9),
   ("LINE FEED", 0xa), ("NEW LINE", 0xa), ("END OF LINE", 0xa), ("LINE TABULATION", 0xb),
   ("VERTICAL TABULATION", 0xb), ("FORM FEED", 0xc), ("CARRIAGE RETURN", 0xd), ("SHIFT OUT", 0xe),
   ("LOCKING-SHIFT ONE", 0xe), ("SHIFT IN", 0xf), ("LOCKING-SHIFT ZERO", 0xf),
   ("DATA LINK ESCAPE", 0x10), ("DEVICE CONTROL ONE", 0x11), ("DEVICE CONTROL TWO", 0x12),
   ("DEVICE CONTROL THREE", 0x13), ("DEVICE CONTROL FOUR", 0x14), ("NEGATIVE ACKNOWLEDGE", 0x15),
   ("SYNCHRONOUS IDLE", 0x16), ("END OF TRANSMISSION BLOCK", 0x17), ("CANCEL", 0x18),
   ("END OF MEDIUM", 0x19), ("SUBSTITUTE", 0x1a), ("ESCAPE", 0x1b),
   ("INFORMATION SEPARATOR FOUR", 0x1c), ("FILE SEPARATOR", 0x1c),
   ("INFORMATION SEPARATOR THREE", 0x1d), ("GROUP SEPARATOR", 0x1d),
   ("INFORMATION SEPARATOR TWO", 0x1e), ("RECORD SEPARATOR", 0x1e),
   ("INFORMATION SEPARATOR ONE", 0x1f), ("UNIT SEPARATOR", 0x1f), ("DELETE", 0x7f),
   ("PADDING CHARACTER", 0x80), ("HIGH OCTET PRESET", 0x81), ("BREAK PERMITTED HERE", 0x82),
   ("NO BREAK HERE", 0x83), ("INDEX", 0x84), ("NEXT LINE", 0x85), ("START OF SELECTED AREA", 0x86),
   ("END OF SELECTED AREA", 0x87), ("CHARACTER TABULATION SET", 0x88),
   ("HORIZONTAL TABULATION SET", 0x88), ("CHARACTER TABULATION WITH JUSTIFICATION", 0x89),
   ("HORIZONTAL TABULATION WITH JUSTIFICATION", 0x89), ("LINE TABULATION SET", 0x8a),
   ("VERTICAL TABULATION SET", 0x8a), ("PARTIAL LINE FORWARD", 0x8b), ("PARTIAL LINE DOWN", 0x8b),
   ("PARTIAL LINE BACKWARD", 0x8c), ("PARTIAL LINE UP", 0x8c), ("REVERSE LINE FEED", 0x8d),
   ("REVERSE INDEX", 0x8d), ("SINGLE SHIFT TWO", 0x8e), ("SINGLE-SHIFT-2", 0x8e),
   ("SINGLE SHIFT THREE", 0x8f), ("SINGLE-SHIFT-3", 0x8f), ("DEVICE CONTROL STRING", 0x90),
   ("PRIVATE USE ONE", 0x91), ("PRIVATE USE-1", 0x91), ("PRIVATE USE TWO", 0x92),
   ("PRIVATE USE-2", 0x92), ("SET TRANSMIT STATE", 0x93), ("CANCEL CHARACTER", 0x94),
   ("MESSAGE WAITING", 0x95), ("START OF GUARDED AREA", 0x96), ("START OF PROTECTED AREA", 0x96),
   ("END OF GUARDED AREA", 0x97), ("END OF PROTECTED AREA", 0x97), ("START OF STRING", 0x98),
   ("SINGLE GRAPHIC CHARACTER INTRODUCER", 0x99), ("SINGLE CHARACTER INTRODUCER", 0x9a),
   ("CONTROL SEQUENCE INTRODUCER", 0x9b), ("STRING TERMINATOR", 0x9c),
   ("OPERATING SYSTEM COMMAND", 0x9d), ("PRIVACY MESSAGE", 0x9e),
   ("APPLICATION PROGRAM COMMAND", 0x9f), ("BYTE ORDER MARK", 0xfeff), ("NUL", 0x0), ("SOH", 0x1),
   ("STX", 0x2), ("ETX", 0x3), ("EOT", 0x4), ("ENQ", 0x5), ("ACK", 0x6), ("BEL", 0x7), ("BS", 0x8),
   ("HT", 0x9), ("TAB", 0x9), ("LF", 0xa), ("NL", 0xa), ("EOL", 0xa), ("VT", 0xb), ("FF", 0xc),
   ("CR", 0xd), ("SO", 0xe), ("SI", 0xf), ("DLE", 0x10), ("DC1", 0x11), ("DC2", 0x12),
   ("DC3", 0x13), ("DC4", 0x14), ("NAK", 0x15), ("SYN", 0x16), ("ETB", 0x17), ("CAN", 0x18),
   ("EOM", 0x19), ("SUB", 0x1a), ("ESC", 0x1b), ("FS", 0x1c), ("GS", 0x1d), ("RS", 0x1e),
   ("US", 0x1f), ("SP", 0x20), ("DEL", 0x7f), ("PAD", 0x80), ("HOP", 0x81), ("BPH", 0x82),
   ("NBH", 0x83), ("IND", 0x84), ("NEL", 0x85), ("SSA", 0x86), ("ESA", 0x87), ("HTS", 0x88),
   ("HTJ", 0x89), ("VTS", 0x8a), ("PLD", 0x8b), ("PLU", 0x8c), ("RI", 0x8d), ("SS2", 0x8e),
   ("SS3", 0x8f), ("DCS", 0x90), ("PU1", 0x91), ("PU2", 0x92), ("STS", 0x93), ("CCH", 0x94),
   ("MW", 0x95), ("SPA", 0x96), ("EPA", 0x97), ("SOS", 0x98), ("SGC", 0x99), ("SCI", 0x9a),
   ("CSI", 0x9b), ("ST", 0x9c), ("OSC", 0x9d), ("PM", 0x9e), ("APC", 0x9f), ("NBSP", 0xa0),
   ("SHY", 0xad), ("CGJ", 0x34f), ("ALM", 0x61c), ("ZWSP", 0x200b), ("ZWNJ", 0x200c),
   ("ZWJ", 0x200d), ("LRM", 0x200e), ("RLM", 0x200f), ("LRE", 0x202a), ("RLE", 0x202b),
   ("PDF", 0x202c), ("LRO", 0x202d), ("RLO", 0x202e), ("NNBSP", 0x202f), ("MMSP", 0x205f),
   ("WJ", 0x2060), ("LRI", 0x2066), ("RLI", 0x2067), ("FSI", 0x2068), ("PDI", 0x2069),
   ("BOM", 0xfeff), ("ZWNBSP", 0xfeff), ("VS1", 0xfe00), ("VS2", 0xfe01), ("VS3", 0xfe02),
   ("VS4", 0xfe03), ("VS5", 0xfe04), ("VS6", 0xfe05), ("VS7", 0xfe06), ("VS8", 0xfe07),
   ("VS9", 0xfe08), ("VS10", 0xfe09), ("VS11", 0xfe0a), ("VS12", 0xfe0b), ("VS13", 0xfe0c),
   ("VS14", 0xfe0d), ("VS15", 0xfe0e), ("VS16", 0xfe0f)]

end BrowserPlan.Text.CharacterName
