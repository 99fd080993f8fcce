/-!
# White space

The characters that Unicode counts as white space.
-/

namespace BrokerRollout.Text

def isSpace (c : Char) : Bool :=
  (0x09 ≤ c.toNat && c.toNat ≤ 0x0d) || (0x2000 ≤ c.toNat && c.toNat ≤ 0x200a)
    || c ∈ ['\x20', '\x85', '\xa0', '\u1680', '\u2028', '\u2029', '\u202f', '\u205f', '\u3000']

end BrokerRollout.Text
