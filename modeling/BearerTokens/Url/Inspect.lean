import BearerTokens.Text.Quoted
import BearerTokens.Url.Basic

/-!
# Inspection texts of URLs

A URL part by part. An IPv6 address that maps an IPv4 one ends in its dotted form here, unlike in the URL.
-/

set_option autoImplicit false

namespace BearerTokens

open BearerTokens.Text

def Host.mapped? : List Nat → Option String
  | [0, 0, 0, 0, 0, 0xFFFF, a, b] => some ("::ffff:" ++ Host.dotted (a * 65536 + b))
  | _ => none

def Host.inspect : Host → Option String
  | .domain name => if name.isEmpty then none else some ("Domain(" ++ quoted name ++ ")")
  | .ipv4 address => some ("Ipv4(" ++ dotted address ++ ")")
  | .ipv6 pieces => some ("Ipv6(" ++ (mapped? pieces).getD (colonHex pieces) ++ ")")

def Url.inspect (u : Url) : String :=
  "Url \x7b scheme: " ++ quoted u.scheme ++
    ", cannot_be_a_base: " ++ (if u.path.isPlain then "true" else "false") ++
    ", username: " ++ quoted ((u.authority.map (·.username)).getD "") ++
    ", password: " ++ orNone ((u.authority.bind (·.password)).map quoted) ++
    ", host: " ++ orNone (u.authority.bind (·.host.inspect)) ++
    ", port: " ++ orNone ((u.authority.bind (·.port)).map toString) ++
    ", path: " ++ quoted u.path.text ++
    ", query: " ++ orNone (u.query.map quoted) ++
    ", fragment: " ++ orNone (u.fragment.map quoted) ++ " \x7d"

end BearerTokens
