import ExprLang.Member.Access

/-!
# A stock of host functions

Simple functions that a host can offer: they answer with what they are given, fail, read members, call and bind
other functions, or leave an entry in the ledger.
-/

namespace ExprLang

/-- A function of the stock. -/
inductive StockFunction where
  | list
  | receiver
  | first
  | throw (message : String)
  | fail (callee : String)
  | get
  | call
  | bind
  | log (id : String) (value : Value)

namespace StockFunction

/-- Gives a function a receiver, unless it has one. -/
def bindTo (receiver : Value) : Value → Eval Value
  | .function _ code old => Eval.newFunction code (some (old.getD receiver))
  | _ => return .undefined

/-- Runs a function of the stock of which `stock` lists all by their handles.  The function that calls its first
argument does so with the other arguments, so that chains of such calls end. -/
def run (stock : Nat → Option StockFunction) (receiver : Value) (function : StockFunction) :
    List Value → Eval Value
  | [] =>
    match function with
    | list => Eval.newArray []
    | .receiver => return receiver
    | throw message => throwThe EvalError (.thrown message)
    | fail callee => throwThe EvalError (.notCallable callee)
    | get => receiver.getProperty .undefined
    | call => throwThe EvalError (.notCallable "callback")
    | log _ value => return value
    | first | bind => return .undefined
  | v :: arguments =>
    match function with
    | list => Eval.newArray (v :: arguments)
    | .receiver => return receiver
    | first => return v
    | throw message => throwThe EvalError (.thrown message)
    | fail callee => throwThe EvalError (.notCallable callee)
    | get => receiver.getProperty v
    | call =>
      match v with
      | .function _ (.host handle) bound => do
        let receiver := bound.getD .undefined
        Eval.record ⟨handle, receiver, arguments⟩
        match stock handle with
        | some function => run stock receiver function arguments
        | none => return .undefined
      | v => v.call ⟨fun _ _ _ => return .undefined⟩ arguments "callback"
    | bind =>
      match arguments with
      | receiver :: _ => bindTo receiver v
      | [] => return .undefined
    | log _ value => return value

/-- The host that offers a stock of functions by their handles. -/
def host (stock : Nat → Option StockFunction) : Host where
  invoke handle receiver arguments :=
    match stock handle with
    | some function => run stock receiver function arguments
    | none => return .undefined

end StockFunction

end ExprLang
