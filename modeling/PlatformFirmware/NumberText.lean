namespace PlatformFirmware

/-- Lower-case hexadecimal digits without leading zeros. -/
def hexDigits (n : Nat) : String :=
  String.ofList (Nat.toDigits 16 n)

/-- A number behind the hexadecimal mark. -/
def hexText (n : Nat) : String :=
  "0x" ++ hexDigits n

/-- Fills a text up on the left to a width counted in characters. -/
def fillLeft (fill : Char) (width : Nat) (text : String) : String :=
  String.ofList (List.replicate (width - text.length) fill) ++ text

/-- Fills a text up on the right to a width counted in characters. -/
def fillRight (fill : Char) (width : Nat) (text : String) : String :=
  text ++ String.ofList (List.replicate (width - text.length) fill)

/-- A hexadecimal number of at least `width` characters, the mark counted. -/
def hexTextOfWidth (width n : Nat) : String :=
  "0x" ++ fillLeft '0' (width - 2) (hexDigits n)

end PlatformFirmware
