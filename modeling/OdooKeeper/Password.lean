/-! # Fresh passwords

A password is made of 32 letters and digits, each drawn by a source of chance. -/

namespace OdooKeeper.Password

def alphabet : List Char :=
  "ABCDEFGHIJKLMNOPQRSTUVWXYZabcdefghijklmnopqrstuvwxyz0123456789".toList

def length : Nat := 32

def ofDraws (draw : Nat → Nat) : String :=
  String.ofList ((List.range length).map fun i =>
    alphabet.getD (draw i % alphabet.length) 'A')

end OdooKeeper.Password
