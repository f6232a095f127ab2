import DataDiagram.Code.Basic
/-!
# Equality of code

Two pieces of code are the same if they have the same kind and the same fields.  Origins do not
count, and plain values are compared as values.
-/

namespace DataDiagram

namespace Code

mutual

def same : Code → Code → Bool
  | datum d, datum e => d.same e
  | tuple xs, tuple ys => sameAll xs ys
  | const _ v, const _ v' => same v v'
  | op _ o cs, op _ o' cs' => same o o' && same cs cs'
  | name _ id, name _ id' => same id id'
  | attr _ v a, attr _ v' a' => same v v' && same a a'
  | item _ v i, item _ v' i' => same v v' && same i i'
  | call _ f as, call _ f' as' => same f f' && same as as'
  | block _ b, block _ b' => sameAll b b'
  | pass _, pass _ => true
  | assign _ t v o, assign _ t' v' o' => same t t' && same v v' && same o o'
  | cond _ t a b, cond _ t' a' b' => same t t' && same a a' && same b b'
  | ret _ v, ret _ v' => same v v'
  | bareCall _ c, bareCall _ c' => same c c'
  | var _ n t s i, var _ n' t' s' i' => same n n' && same t t' && same s s' && same i i'
  | cls _ n fs ps, cls _ n' fs' ps' => same n n' && same fs fs' && same ps ps'
  | func _ n as b gs ls, func _ n' as' b' gs' ls' =>
    same n n' && same as as' && same b b' && same gs gs' && same ls ls'
  | bare _ k, bare _ k' => k == k'
  | _, _ => false

def sameAll : List Code → List Code → Bool
  | [], [] => true
  | c :: cs, d :: ds => same c d && sameAll cs ds
  | _, _ => false

end

end Code

def Var.same (v w : Var) : Bool := v.code.same w.code

def Class.same (c d : Class) : Bool := c.code.same d.code

def Func.same (f g : Func) : Bool := f.code.same g.code

end DataDiagram
