namespace CommandLine.Text

def isBlank (c : Char) : Bool :=
  if c.toNat < 0x80 then
    c = ' ' || 0x09 ≤ c.toNat && c.toNat ≤ 0x0d
  else
    c ∈ ['\u0085', '\u00a0', '\u1680', '\u2028', '\u2029', '\u202f', '\u205f', '\u3000',
      '\u200e', '\u200f'] || 0x2000 ≤ c.toNat && c.toNat ≤ 0x200a

end CommandLine.Text
