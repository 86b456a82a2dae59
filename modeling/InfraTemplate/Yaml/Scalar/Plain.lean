import InfraTemplate.Yaml.Glyph

namespace InfraTemplate.Yaml

structure PlainContext where
  indent : Int
  flow : Bool

structure PlainScalar where
  text : List Char
  endsLine : Bool
  rest : Glyphs

def plainEnd (ctx : PlainContext) (gs : Glyphs) : Bool :=
  let c := gs.char
  (c == ':' && isSeparation (gs.charAt 1)) || (ctx.flow && isFlowIndicator c)

def strayColon (ctx : PlainContext) (gs : Glyphs) : Bool :=
  ctx.flow && gs.char == ':' && (isFlowIndicator (gs.charAt 1) || gs.charAt 1 == '?')

def readPlain (ctx : PlainContext) (acc : List Char) (gap : Gap) : Glyphs → Option PlainScalar
  | [] => none
  | g :: rest =>
    let gs := g :: rest
    let finish : Option PlainScalar := some ⟨acc.reverse, gap.hasBreak, gs⟩
    if isBlank g.char then
      if gap.hasBreak && (g.column : Int) < ctx.indent + 1 && g.char == '\t' then none
      else readPlain ctx acc (gap.addBlank g.char) rest
    else if isBreak g.char then readPlain ctx acc (gap.addBreak g.char) rest
    else if isEnd g.char then finish
    else if !gap.isNone && !ctx.flow && (g.column : Int) < ctx.indent + 1 then finish
    else if Glyphs.atDocumentMark gs then finish
    else if !gap.isNone && g.char == '#' then finish
    else if strayColon ctx gs then none
    else if plainEnd ctx gs then finish
    else readPlain ctx (g.char :: (gap.text.reverse ++ acc)) .none rest

end InfraTemplate.Yaml
