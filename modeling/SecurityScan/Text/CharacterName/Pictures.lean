import SecurityScan.Text.CharacterName.Basic

/-!
# Names of pictures

Pictures and what else stands beyond the technical symbols.
-/

namespace SecurityScan.Text.CharacterName

def pictures : List Block := [
  ⟨0x27C0, [
    "THREE DIMENSIONAL ANGLE|WHITE TRIANGLE CONTAINING SMALL WHITE TRIANGLE|PERPENDICULAR",
    "OPEN SUBSET|OPEN SUPERSET|LEFT S-SHAPED BAG DELIMITER|RIGHT S-SHAPED BAG DELIMITER",
    "OR WITH DOT INSIDE|REVERSE SOLIDUS PRECEDING SUBSET|SUPERSET PRECEDING SOLIDUS",
    "VERTICAL BAR WITH HORIZONTAL STROKE|MATHEMATICAL RISING DIAGONAL|LONG DIVISION",
    "MATHEMATICAL FALLING DIAGONAL|SQUARED LOGICAL AND|SQUARED LOGICAL OR",
    "WHITE DIAMOND WITH CENTRED DOT|AND WITH DOT|ELEMENT OF OPENING UPWARDS",
    "LOWER RIGHT CORNER WITH DOT|UPPER LEFT CORNER WITH DOT|LEFT OUTER JOIN|RIGHT OUTER JOIN",
    "FULL OUTER JOIN|LARGE UP TACK|LARGE DOWN TACK|LEFT AND RIGHT DOUBLE TURNSTILE",
    "LEFT AND RIGHT TACK|LEFT MULTIMAP|LONG RIGHT TACK|LONG LEFT TACK|UP TACK WITH CIRCLE ABOVE",
    "LOZENGE DIVIDED BY HORIZONTAL RULE|WHITE CONCAVE-SIDED DIAMOND",
    "WHITE CONCAVE-SIDED DIAMOND WITH LEFTWARDS TICK",
    "WHITE CONCAVE-SIDED DIAMOND WITH RIGHTWARDS TICK|WHITE SQUARE WITH LEFTWARDS TICK",
    "WHITE SQUARE WITH RIGHTWARDS TICK|MATHEMATICAL LEFT WHITE SQUARE BRACKET",
    "MATHEMATICAL RIGHT WHITE SQUARE BRACKET|MATHEMATICAL LEFT ANGLE BRACKET",
    "MATHEMATICAL RIGHT ANGLE BRACKET|MATHEMATICAL LEFT DOUBLE ANGLE BRACKET",
    "MATHEMATICAL RIGHT DOUBLE ANGLE BRACKET|MATHEMATICAL LEFT WHITE TORTOISE SHELL BRACKET",
    "MATHEMATICAL RIGHT WHITE TORTOISE SHELL BRACKET|MATHEMATICAL LEFT FLATTENED PARENTHESIS",
    "MATHEMATICAL RIGHT FLATTENED PARENTHESIS|UPWARDS QUADRUPLE ARROW|DOWNWARDS QUADRUPLE ARROW",
    "ANTICLOCKWISE GAPPED CIRCLE ARROW|CLOCKWISE GAPPED CIRCLE ARROW",
    "RIGHT ARROW WITH CIRCLED PLUS|LONG LEFTWARDS ARROW|LONG RIGHTWARDS ARROW",
    "LONG LEFT RIGHT ARROW|LONG LEFTWARDS DOUBLE ARROW|LONG RIGHTWARDS DOUBLE ARROW",
    "LONG LEFT RIGHT DOUBLE ARROW|LONG LEFTWARDS ARROW FROM BAR|LONG RIGHTWARDS ARROW FROM BAR",
    "LONG LEFTWARDS DOUBLE ARROW FROM BAR|LONG RIGHTWARDS DOUBLE ARROW FROM BAR",
    "LONG RIGHTWARDS SQUIGGLE ARROW"]⟩,
  ⟨0x2900, [
    "RIGHTWARDS TWO-HEADED ARROW WITH VERTICAL STROKE",
    "RIGHTWARDS TWO-HEADED ARROW WITH DOUBLE VERTICAL STROKE",
    "LEFTWARDS DOUBLE ARROW WITH VERTICAL STROKE|RIGHTWARDS DOUBLE ARROW WITH VERTICAL STROKE",
    "LEFT RIGHT DOUBLE ARROW WITH VERTICAL STROKE|RIGHTWARDS TWO-HEADED ARROW FROM BAR",
    "LEFTWARDS DOUBLE ARROW FROM BAR|RIGHTWARDS DOUBLE ARROW FROM BAR",
    "DOWNWARDS ARROW WITH HORIZONTAL STROKE|UPWARDS ARROW WITH HORIZONTAL STROKE",
    "UPWARDS TRIPLE ARROW|DOWNWARDS TRIPLE ARROW|LEFTWARDS DOUBLE DASH ARROW",
    "RIGHTWARDS DOUBLE DASH ARROW|LEFTWARDS TRIPLE DASH ARROW|RIGHTWARDS TRIPLE DASH ARROW",
    "RIGHTWARDS TWO-HEADED TRIPLE DASH ARROW|RIGHTWARDS ARROW WITH DOTTED STEM",
    "UPWARDS ARROW TO BAR|DOWNWARDS ARROW TO BAR|RIGHTWARDS ARROW WITH TAIL WITH VERTICAL STROKE",
    "RIGHTWARDS ARROW WITH TAIL WITH DOUBLE VERTICAL STROKE|RIGHTWARDS TWO-HEADED ARROW WITH TAIL",
    "RIGHTWARDS TWO-HEADED ARROW WITH TAIL WITH VERTICAL STROKE",
    "RIGHTWARDS TWO-HEADED ARROW WITH TAIL WITH DOUBLE VERTICAL STROKE|LEFTWARDS ARROW-TAIL",
    "RIGHTWARDS ARROW-TAIL|LEFTWARDS DOUBLE ARROW-TAIL|RIGHTWARDS DOUBLE ARROW-TAIL",
    "LEFTWARDS ARROW TO BLACK DIAMOND|RIGHTWARDS ARROW TO BLACK DIAMOND",
    "LEFTWARDS ARROW FROM BAR TO BLACK DIAMOND|RIGHTWARDS ARROW FROM BAR TO BLACK DIAMOND",
    "NORTH WEST AND SOUTH EAST ARROW|NORTH EAST AND SOUTH WEST ARROW|NORTH WEST ARROW WITH HOOK",
    "NORTH EAST ARROW WITH HOOK|SOUTH EAST ARROW WITH HOOK|SOUTH WEST ARROW WITH HOOK",
    "NORTH WEST ARROW AND NORTH EAST ARROW|NORTH EAST ARROW AND SOUTH EAST ARROW",
    "SOUTH EAST ARROW AND SOUTH WEST ARROW|SOUTH WEST ARROW AND NORTH WEST ARROW",
    "RISING DIAGONAL CROSSING FALLING DIAGONAL|FALLING DIAGONAL CROSSING RISING DIAGONAL",
    "SOUTH EAST ARROW CROSSING NORTH EAST ARROW|NORTH EAST ARROW CROSSING SOUTH EAST ARROW",
    "FALLING DIAGONAL CROSSING NORTH EAST ARROW|RISING DIAGONAL CROSSING SOUTH EAST ARROW",
    "NORTH EAST ARROW CROSSING NORTH WEST ARROW|NORTH WEST ARROW CROSSING NORTH EAST ARROW",
    "WAVE ARROW POINTING DIRECTLY RIGHT|ARROW POINTING RIGHTWARDS THEN CURVING UPWARDS",
    "ARROW POINTING RIGHTWARDS THEN CURVING DOWNWARDS",
    "ARROW POINTING DOWNWARDS THEN CURVING LEFTWARDS",
    "ARROW POINTING DOWNWARDS THEN CURVING RIGHTWARDS|RIGHT-SIDE ARC CLOCKWISE ARROW",
    "LEFT-SIDE ARC ANTICLOCKWISE ARROW|TOP ARC ANTICLOCKWISE ARROW|BOTTOM ARC ANTICLOCKWISE ARROW",
    "TOP ARC CLOCKWISE ARROW WITH MINUS|TOP ARC ANTICLOCKWISE ARROW WITH PLUS",
    "LOWER RIGHT SEMICIRCULAR CLOCKWISE ARROW|LOWER LEFT SEMICIRCULAR ANTICLOCKWISE ARROW",
    "ANTICLOCKWISE CLOSED CIRCLE ARROW|CLOCKWISE CLOSED CIRCLE ARROW",
    "RIGHTWARDS ARROW ABOVE SHORT LEFTWARDS ARROW|LEFTWARDS ARROW ABOVE SHORT RIGHTWARDS ARROW",
    "SHORT RIGHTWARDS ARROW ABOVE LEFTWARDS ARROW|RIGHTWARDS ARROW WITH PLUS BELOW",
    "LEFTWARDS ARROW WITH PLUS BELOW|RIGHTWARDS ARROW THROUGH X",
    "LEFT RIGHT ARROW THROUGH SMALL CIRCLE|UPWARDS TWO-HEADED ARROW FROM SMALL CIRCLE",
    "LEFT BARB UP RIGHT BARB DOWN HARPOON|LEFT BARB DOWN RIGHT BARB UP HARPOON",
    "UP BARB RIGHT DOWN BARB LEFT HARPOON|UP BARB LEFT DOWN BARB RIGHT HARPOON",
    "LEFT BARB UP RIGHT BARB UP HARPOON|UP BARB RIGHT DOWN BARB RIGHT HARPOON",
    "LEFT BARB DOWN RIGHT BARB DOWN HARPOON|UP BARB LEFT DOWN BARB LEFT HARPOON",
    "LEFTWARDS HARPOON WITH BARB UP TO BAR|RIGHTWARDS HARPOON WITH BARB UP TO BAR",
    "UPWARDS HARPOON WITH BARB RIGHT TO BAR|DOWNWARDS HARPOON WITH BARB RIGHT TO BAR",
    "LEFTWARDS HARPOON WITH BARB DOWN TO BAR|RIGHTWARDS HARPOON WITH BARB DOWN TO BAR",
    "UPWARDS HARPOON WITH BARB LEFT TO BAR|DOWNWARDS HARPOON WITH BARB LEFT TO BAR",
    "LEFTWARDS HARPOON WITH BARB UP FROM BAR|RIGHTWARDS HARPOON WITH BARB UP FROM BAR",
    "UPWARDS HARPOON WITH BARB RIGHT FROM BAR|DOWNWARDS HARPOON WITH BARB RIGHT FROM BAR",
    "LEFTWARDS HARPOON WITH BARB DOWN FROM BAR|RIGHTWARDS HARPOON WITH BARB DOWN FROM BAR",
    "UPWARDS HARPOON WITH BARB LEFT FROM BAR|DOWNWARDS HARPOON WITH BARB LEFT FROM BAR",
    "LEFTWARDS HARPOON WITH BARB UP ABOVE LEFTWARDS HARPOON WITH BARB DOWN",
    "UPWARDS HARPOON WITH BARB LEFT BESIDE UPWARDS HARPOON WITH BARB RIGHT",
    "RIGHTWARDS HARPOON WITH BARB UP ABOVE RIGHTWARDS HARPOON WITH BARB DOWN",
    "DOWNWARDS HARPOON WITH BARB LEFT BESIDE DOWNWARDS HARPOON WITH BARB RIGHT",
    "LEFTWARDS HARPOON WITH BARB UP ABOVE RIGHTWARDS HARPOON WITH BARB UP",
    "LEFTWARDS HARPOON WITH BARB DOWN ABOVE RIGHTWARDS HARPOON WITH BARB DOWN",
    "RIGHTWARDS HARPOON WITH BARB UP ABOVE LEFTWARDS HARPOON WITH BARB UP",
    "RIGHTWARDS HARPOON WITH BARB DOWN ABOVE LEFTWARDS HARPOON WITH BARB DOWN",
    "LEFTWARDS HARPOON WITH BARB UP ABOVE LONG DASH",
    "LEFTWARDS HARPOON WITH BARB DOWN BELOW LONG DASH",
    "RIGHTWARDS HARPOON WITH BARB UP ABOVE LONG DASH",
    "RIGHTWARDS HARPOON WITH BARB DOWN BELOW LONG DASH",
    "UPWARDS HARPOON WITH BARB LEFT BESIDE DOWNWARDS HARPOON WITH BARB RIGHT",
    "DOWNWARDS HARPOON WITH BARB LEFT BESIDE UPWARDS HARPOON WITH BARB RIGHT",
    "RIGHT DOUBLE ARROW WITH ROUNDED HEAD|EQUALS SIGN ABOVE RIGHTWARDS ARROW",
    "TILDE OPERATOR ABOVE RIGHTWARDS ARROW|LEFTWARDS ARROW ABOVE TILDE OPERATOR",
    "RIGHTWARDS ARROW ABOVE TILDE OPERATOR|RIGHTWARDS ARROW ABOVE ALMOST EQUAL TO",
    "LESS-THAN ABOVE LEFTWARDS ARROW|LEFTWARDS ARROW THROUGH LESS-THAN",
    "GREATER-THAN ABOVE RIGHTWARDS ARROW|SUBSET ABOVE RIGHTWARDS ARROW",
    "LEFTWARDS ARROW THROUGH SUBSET|SUPERSET ABOVE LEFTWARDS ARROW|LEFT FISH TAIL|RIGHT FISH TAIL",
    "UP FISH TAIL|DOWN FISH TAIL"]⟩,
  ⟨0x2B00, [
    "NORTH EAST WHITE ARROW|NORTH WEST WHITE ARROW|SOUTH EAST WHITE ARROW|SOUTH WEST WHITE ARROW",
    "LEFT RIGHT WHITE ARROW|LEFTWARDS BLACK ARROW|UPWARDS BLACK ARROW|DOWNWARDS BLACK ARROW",
    "NORTH EAST BLACK ARROW|NORTH WEST BLACK ARROW|SOUTH EAST BLACK ARROW|SOUTH WEST BLACK ARROW",
    "LEFT RIGHT BLACK ARROW|UP DOWN BLACK ARROW|RIGHTWARDS ARROW WITH TIP DOWNWARDS",
    "RIGHTWARDS ARROW WITH TIP UPWARDS|LEFTWARDS ARROW WITH TIP DOWNWARDS",
    "LEFTWARDS ARROW WITH TIP UPWARDS|SQUARE WITH TOP HALF BLACK|SQUARE WITH BOTTOM HALF BLACK",
    "SQUARE WITH UPPER RIGHT DIAGONAL HALF BLACK|SQUARE WITH LOWER LEFT DIAGONAL HALF BLACK",
    "DIAMOND WITH LEFT HALF BLACK|DIAMOND WITH RIGHT HALF BLACK|DIAMOND WITH TOP HALF BLACK",
    "DIAMOND WITH BOTTOM HALF BLACK|DOTTED SQUARE|BLACK LARGE SQUARE|WHITE LARGE SQUARE",
    "BLACK VERY SMALL SQUARE|WHITE VERY SMALL SQUARE|BLACK PENTAGON|WHITE PENTAGON|WHITE HEXAGON",
    "BLACK HEXAGON|HORIZONTAL BLACK HEXAGON|BLACK LARGE CIRCLE|BLACK MEDIUM DIAMOND",
    "WHITE MEDIUM DIAMOND|BLACK MEDIUM LOZENGE|WHITE MEDIUM LOZENGE|BLACK SMALL DIAMOND",
    "BLACK SMALL LOZENGE|WHITE SMALL LOZENGE|BLACK HORIZONTAL ELLIPSE|WHITE HORIZONTAL ELLIPSE",
    "BLACK VERTICAL ELLIPSE|WHITE VERTICAL ELLIPSE|LEFT ARROW WITH SMALL CIRCLE",
    "THREE LEFTWARDS ARROWS|LEFT ARROW WITH CIRCLED PLUS|LONG LEFTWARDS SQUIGGLE ARROW",
    "LEFTWARDS TWO-HEADED ARROW WITH VERTICAL STROKE",
    "LEFTWARDS TWO-HEADED ARROW WITH DOUBLE VERTICAL STROKE|LEFTWARDS TWO-HEADED ARROW FROM BAR",
    "LEFTWARDS TWO-HEADED TRIPLE DASH ARROW|LEFTWARDS ARROW WITH DOTTED STEM",
    "LEFTWARDS ARROW WITH TAIL WITH VERTICAL STROKE",
    "LEFTWARDS ARROW WITH TAIL WITH DOUBLE VERTICAL STROKE|LEFTWARDS TWO-HEADED ARROW WITH TAIL",
    "LEFTWARDS TWO-HEADED ARROW WITH TAIL WITH VERTICAL STROKE",
    "LEFTWARDS TWO-HEADED ARROW WITH TAIL WITH DOUBLE VERTICAL STROKE|LEFTWARDS ARROW THROUGH X",
    "WAVE ARROW POINTING DIRECTLY LEFT|EQUALS SIGN ABOVE LEFTWARDS ARROW",
    "REVERSE TILDE OPERATOR ABOVE LEFTWARDS ARROW|LEFTWARDS ARROW ABOVE REVERSE ALMOST EQUAL TO",
    "RIGHTWARDS ARROW THROUGH GREATER-THAN|RIGHTWARDS ARROW THROUGH SUPERSET",
    "LEFTWARDS QUADRUPLE ARROW|RIGHTWARDS QUADRUPLE ARROW",
    "REVERSE TILDE OPERATOR ABOVE RIGHTWARDS ARROW|RIGHTWARDS ARROW ABOVE REVERSE ALMOST EQUAL TO",
    "TILDE OPERATOR ABOVE LEFTWARDS ARROW|LEFTWARDS ARROW ABOVE ALMOST EQUAL TO",
    "LEFTWARDS ARROW ABOVE REVERSE TILDE OPERATOR|RIGHTWARDS ARROW ABOVE REVERSE TILDE OPERATOR",
    "DOWNWARDS TRIANGLE-HEADED ZIGZAG ARROW|SHORT SLANTED NORTH ARROW",
    "SHORT BACKSLANTED SOUTH ARROW|WHITE MEDIUM STAR|BLACK SMALL STAR|WHITE SMALL STAR",
    "BLACK RIGHT-POINTING PENTAGON|WHITE RIGHT-POINTING PENTAGON|HEAVY LARGE CIRCLE",
    "HEAVY OVAL WITH OVAL INSIDE|HEAVY CIRCLE WITH CIRCLE INSIDE|HEAVY CIRCLE",
    "HEAVY CIRCLED SALTIRE|SLANTED NORTH ARROW WITH HOOKED HEAD",
    "BACKSLANTED SOUTH ARROW WITH HOOKED TAIL|SLANTED NORTH ARROW WITH HORIZONTAL TAIL",
    "BACKSLANTED SOUTH ARROW WITH HORIZONTAL TAIL|BENT ARROW POINTING DOWNWARDS THEN NORTH EAST",
    "SHORT BENT ARROW POINTING DOWNWARDS THEN NORTH EAST|LEFTWARDS TRIANGLE-HEADED ARROW",
    "UPWARDS TRIANGLE-HEADED ARROW|RIGHTWARDS TRIANGLE-HEADED ARROW",
    "DOWNWARDS TRIANGLE-HEADED ARROW|LEFT RIGHT TRIANGLE-HEADED ARROW",
    "UP DOWN TRIANGLE-HEADED ARROW|NORTH WEST TRIANGLE-HEADED ARROW",
    "NORTH EAST TRIANGLE-HEADED ARROW|SOUTH EAST TRIANGLE-HEADED ARROW",
    "SOUTH WEST TRIANGLE-HEADED ARROW|LEFTWARDS TRIANGLE-HEADED DASHED ARROW",
    "UPWARDS TRIANGLE-HEADED DASHED ARROW|RIGHTWARDS TRIANGLE-HEADED DASHED ARROW",
    "DOWNWARDS TRIANGLE-HEADED DASHED ARROW|CLOCKWISE TRIANGLE-HEADED OPEN CIRCLE ARROW",
    "ANTICLOCKWISE TRIANGLE-HEADED OPEN CIRCLE ARROW|LEFTWARDS TRIANGLE-HEADED ARROW TO BAR",
    "UPWARDS TRIANGLE-HEADED ARROW TO BAR|RIGHTWARDS TRIANGLE-HEADED ARROW TO BAR",
    "DOWNWARDS TRIANGLE-HEADED ARROW TO BAR"]⟩,
  ⟨0x1D400, [
    "MATHEMATICAL BOLD CAPITAL A|MATHEMATICAL BOLD CAPITAL B|MATHEMATICAL BOLD CAPITAL C",
    "MATHEMATICAL BOLD CAPITAL D|MATHEMATICAL BOLD CAPITAL E|MATHEMATICAL BOLD CAPITAL F",
    "MATHEMATICAL BOLD CAPITAL G|MATHEMATICAL BOLD CAPITAL H|MATHEMATICAL BOLD CAPITAL I",
    "MATHEMATICAL BOLD CAPITAL J|MATHEMATICAL BOLD CAPITAL K|MATHEMATICAL BOLD CAPITAL L",
    "MATHEMATICAL BOLD CAPITAL M|MATHEMATICAL BOLD CAPITAL N|MATHEMATICAL BOLD CAPITAL O",
    "MATHEMATICAL BOLD CAPITAL P|MATHEMATICAL BOLD CAPITAL Q|MATHEMATICAL BOLD CAPITAL R",
    "MATHEMATICAL BOLD CAPITAL S|MATHEMATICAL BOLD CAPITAL T|MATHEMATICAL BOLD CAPITAL U",
    "MATHEMATICAL BOLD CAPITAL V|MATHEMATICAL BOLD CAPITAL W|MATHEMATICAL BOLD CAPITAL X",
    "MATHEMATICAL BOLD CAPITAL Y|MATHEMATICAL BOLD CAPITAL Z|MATHEMATICAL BOLD SMALL A",
    "MATHEMATICAL BOLD SMALL B|MATHEMATICAL BOLD SMALL C|MATHEMATICAL BOLD SMALL D",
    "MATHEMATICAL BOLD SMALL E|MATHEMATICAL BOLD SMALL F|MATHEMATICAL BOLD SMALL G",
    "MATHEMATICAL BOLD SMALL H|MATHEMATICAL BOLD SMALL I|MATHEMATICAL BOLD SMALL J",
    "MATHEMATICAL BOLD SMALL K|MATHEMATICAL BOLD SMALL L|MATHEMATICAL BOLD SMALL M",
    "MATHEMATICAL BOLD SMALL N|MATHEMATICAL BOLD SMALL O|MATHEMATICAL BOLD SMALL P",
    "MATHEMATICAL BOLD SMALL Q|MATHEMATICAL BOLD SMALL R|MATHEMATICAL BOLD SMALL S",
    "MATHEMATICAL BOLD SMALL T|MATHEMATICAL BOLD SMALL U|MATHEMATICAL BOLD SMALL V",
    "MATHEMATICAL BOLD SMALL W|MATHEMATICAL BOLD SMALL X|MATHEMATICAL BOLD SMALL Y",
    "MATHEMATICAL BOLD SMALL Z"]⟩,
  ⟨0x1F0A0, [
    "PLAYING CARD BACK|PLAYING CARD ACE OF SPADES|PLAYING CARD TWO OF SPADES",
    "PLAYING CARD THREE OF SPADES|PLAYING CARD FOUR OF SPADES|PLAYING CARD FIVE OF SPADES",
    "PLAYING CARD SIX OF SPADES|PLAYING CARD SEVEN OF SPADES|PLAYING CARD EIGHT OF SPADES",
    "PLAYING CARD NINE OF SPADES|PLAYING CARD TEN OF SPADES|PLAYING CARD JACK OF SPADES",
    "PLAYING CARD KNIGHT OF SPADES|PLAYING CARD QUEEN OF SPADES|PLAYING CARD KING OF SPADES"]⟩,
  ⟨0x1F0B1, [
    "PLAYING CARD ACE OF HEARTS|PLAYING CARD TWO OF HEARTS|PLAYING CARD THREE OF HEARTS",
    "PLAYING CARD FOUR OF HEARTS|PLAYING CARD FIVE OF HEARTS|PLAYING CARD SIX OF HEARTS",
    "PLAYING CARD SEVEN OF HEARTS|PLAYING CARD EIGHT OF HEARTS|PLAYING CARD NINE OF HEARTS",
    "PLAYING CARD TEN OF HEARTS|PLAYING CARD JACK OF HEARTS|PLAYING CARD KNIGHT OF HEARTS",
    "PLAYING CARD QUEEN OF HEARTS|PLAYING CARD KING OF HEARTS|PLAYING CARD RED JOKER"]⟩,
  ⟨0x1F0C1, [
    "PLAYING CARD ACE OF DIAMONDS|PLAYING CARD TWO OF DIAMONDS|PLAYING CARD THREE OF DIAMONDS",
    "PLAYING CARD FOUR OF DIAMONDS|PLAYING CARD FIVE OF DIAMONDS|PLAYING CARD SIX OF DIAMONDS",
    "PLAYING CARD SEVEN OF DIAMONDS|PLAYING CARD EIGHT OF DIAMONDS|PLAYING CARD NINE OF DIAMONDS",
    "PLAYING CARD TEN OF DIAMONDS|PLAYING CARD JACK OF DIAMONDS|PLAYING CARD KNIGHT OF DIAMONDS",
    "PLAYING CARD QUEEN OF DIAMONDS|PLAYING CARD KING OF DIAMONDS|PLAYING CARD BLACK JOKER"]⟩,
  ⟨0x1F0D1, [
    "PLAYING CARD ACE OF CLUBS|PLAYING CARD TWO OF CLUBS|PLAYING CARD THREE OF CLUBS",
    "PLAYING CARD FOUR OF CLUBS|PLAYING CARD FIVE OF CLUBS|PLAYING CARD SIX OF CLUBS",
    "PLAYING CARD SEVEN OF CLUBS|PLAYING CARD EIGHT OF CLUBS|PLAYING CARD NINE OF CLUBS",
    "PLAYING CARD TEN OF CLUBS|PLAYING CARD JACK OF CLUBS|PLAYING CARD KNIGHT OF CLUBS",
    "PLAYING CARD QUEEN OF CLUBS|PLAYING CARD KING OF CLUBS|PLAYING CARD WHITE JOKER",
    "PLAYING CARD FOOL|PLAYING CARD TRUMP-1|PLAYING CARD TRUMP-2|PLAYING CARD TRUMP-3",
    "PLAYING CARD TRUMP-4|PLAYING CARD TRUMP-5|PLAYING CARD TRUMP-6|PLAYING CARD TRUMP-7",
    "PLAYING CARD TRUMP-8|PLAYING CARD TRUMP-9|PLAYING CARD TRUMP-10|PLAYING CARD TRUMP-11",
    "PLAYING CARD TRUMP-12|PLAYING CARD TRUMP-13|PLAYING CARD TRUMP-14|PLAYING CARD TRUMP-15",
    "PLAYING CARD TRUMP-16|PLAYING CARD TRUMP-17|PLAYING CARD TRUMP-18|PLAYING CARD TRUMP-19",
    "PLAYING CARD TRUMP-20|PLAYING CARD TRUMP-21"]⟩,
  ⟨0x1F110, [
    "PARENTHESIZED LATIN CAPITAL LETTER A|PARENTHESIZED LATIN CAPITAL LETTER B",
    "PARENTHESIZED LATIN CAPITAL LETTER C|PARENTHESIZED LATIN CAPITAL LETTER D",
    "PARENTHESIZED LATIN CAPITAL LETTER E|PARENTHESIZED LATIN CAPITAL LETTER F",
    "PARENTHESIZED LATIN CAPITAL LETTER G|PARENTHESIZED LATIN CAPITAL LETTER H",
    "PARENTHESIZED LATIN CAPITAL LETTER I|PARENTHESIZED LATIN CAPITAL LETTER J",
    "PARENTHESIZED LATIN CAPITAL LETTER K|PARENTHESIZED LATIN CAPITAL LETTER L",
    "PARENTHESIZED LATIN CAPITAL LETTER M|PARENTHESIZED LATIN CAPITAL LETTER N",
    "PARENTHESIZED LATIN CAPITAL LETTER O|PARENTHESIZED LATIN CAPITAL LETTER P",
    "PARENTHESIZED LATIN CAPITAL LETTER Q|PARENTHESIZED LATIN CAPITAL LETTER R",
    "PARENTHESIZED LATIN CAPITAL LETTER S|PARENTHESIZED LATIN CAPITAL LETTER T",
    "PARENTHESIZED LATIN CAPITAL LETTER U|PARENTHESIZED LATIN CAPITAL LETTER V",
    "PARENTHESIZED LATIN CAPITAL LETTER W|PARENTHESIZED LATIN CAPITAL LETTER X",
    "PARENTHESIZED LATIN CAPITAL LETTER Y|PARENTHESIZED LATIN CAPITAL LETTER Z",
    "TORTOISE SHELL BRACKETED LATIN CAPITAL LETTER S|CIRCLED ITALIC LATIN CAPITAL LETTER C",
    "CIRCLED ITALIC LATIN CAPITAL LETTER R|CIRCLED CD|CIRCLED WZ|COPYLEFT SYMBOL",
    "SQUARED LATIN CAPITAL LETTER A|SQUARED LATIN CAPITAL LETTER B|SQUARED LATIN CAPITAL LETTER C",
    "SQUARED LATIN CAPITAL LETTER D|SQUARED LATIN CAPITAL LETTER E|SQUARED LATIN CAPITAL LETTER F",
    "SQUARED LATIN CAPITAL LETTER G|SQUARED LATIN CAPITAL LETTER H|SQUARED LATIN CAPITAL LETTER I",
    "SQUARED LATIN CAPITAL LETTER J|SQUARED LATIN CAPITAL LETTER K|SQUARED LATIN CAPITAL LETTER L",
    "SQUARED LATIN CAPITAL LETTER M|SQUARED LATIN CAPITAL LETTER N|SQUARED LATIN CAPITAL LETTER O",
    "SQUARED LATIN CAPITAL LETTER P|SQUARED LATIN CAPITAL LETTER Q|SQUARED LATIN CAPITAL LETTER R",
    "SQUARED LATIN CAPITAL LETTER S|SQUARED LATIN CAPITAL LETTER T|SQUARED LATIN CAPITAL LETTER U",
    "SQUARED LATIN CAPITAL LETTER V|SQUARED LATIN CAPITAL LETTER W|SQUARED LATIN CAPITAL LETTER X",
    "SQUARED LATIN CAPITAL LETTER Y|SQUARED LATIN CAPITAL LETTER Z|SQUARED HV|SQUARED MV",
    "SQUARED SD|SQUARED SS|SQUARED PPV|SQUARED WC|NEGATIVE CIRCLED LATIN CAPITAL LETTER A",
    "NEGATIVE CIRCLED LATIN CAPITAL LETTER B|NEGATIVE CIRCLED LATIN CAPITAL LETTER C",
    "NEGATIVE CIRCLED LATIN CAPITAL LETTER D|NEGATIVE CIRCLED LATIN CAPITAL LETTER E",
    "NEGATIVE CIRCLED LATIN CAPITAL LETTER F|NEGATIVE CIRCLED LATIN CAPITAL LETTER G",
    "NEGATIVE CIRCLED LATIN CAPITAL LETTER H|NEGATIVE CIRCLED LATIN CAPITAL LETTER I",
    "NEGATIVE CIRCLED LATIN CAPITAL LETTER J|NEGATIVE CIRCLED LATIN CAPITAL LETTER K",
    "NEGATIVE CIRCLED LATIN CAPITAL LETTER L|NEGATIVE CIRCLED LATIN CAPITAL LETTER M",
    "NEGATIVE CIRCLED LATIN CAPITAL LETTER N|NEGATIVE CIRCLED LATIN CAPITAL LETTER O",
    "NEGATIVE CIRCLED LATIN CAPITAL LETTER P|NEGATIVE CIRCLED LATIN CAPITAL LETTER Q",
    "NEGATIVE CIRCLED LATIN CAPITAL LETTER R|NEGATIVE CIRCLED LATIN CAPITAL LETTER S",
    "NEGATIVE CIRCLED LATIN CAPITAL LETTER T|NEGATIVE CIRCLED LATIN CAPITAL LETTER U",
    "NEGATIVE CIRCLED LATIN CAPITAL LETTER V|NEGATIVE CIRCLED LATIN CAPITAL LETTER W",
    "NEGATIVE CIRCLED LATIN CAPITAL LETTER X|NEGATIVE CIRCLED LATIN CAPITAL LETTER Y",
    "NEGATIVE CIRCLED LATIN CAPITAL LETTER Z|RAISED MC SIGN|RAISED MD SIGN|RAISED MR SIGN",
    "CIRCLED CC|CIRCLED C WITH OVERLAID BACKSLASH|CIRCLED HUMAN FIGURE",
    "NEGATIVE SQUARED LATIN CAPITAL LETTER A|NEGATIVE SQUARED LATIN CAPITAL LETTER B",
    "NEGATIVE SQUARED LATIN CAPITAL LETTER C|NEGATIVE SQUARED LATIN CAPITAL LETTER D",
    "NEGATIVE SQUARED LATIN CAPITAL LETTER E|NEGATIVE SQUARED LATIN CAPITAL LETTER F",
    "NEGATIVE SQUARED LATIN CAPITAL LETTER G|NEGATIVE SQUARED LATIN CAPITAL LETTER H",
    "NEGATIVE SQUARED LATIN CAPITAL LETTER I|NEGATIVE SQUARED LATIN CAPITAL LETTER J",
    "NEGATIVE SQUARED LATIN CAPITAL LETTER K|NEGATIVE SQUARED LATIN CAPITAL LETTER L",
    "NEGATIVE SQUARED LATIN CAPITAL LETTER M|NEGATIVE SQUARED LATIN CAPITAL LETTER N",
    "NEGATIVE SQUARED LATIN CAPITAL LETTER O|NEGATIVE SQUARED LATIN CAPITAL LETTER P",
    "NEGATIVE SQUARED LATIN CAPITAL LETTER Q|NEGATIVE SQUARED LATIN CAPITAL LETTER R",
    "NEGATIVE SQUARED LATIN CAPITAL LETTER S|NEGATIVE SQUARED LATIN CAPITAL LETTER T",
    "NEGATIVE SQUARED LATIN CAPITAL LETTER U|NEGATIVE SQUARED LATIN CAPITAL LETTER V",
    "NEGATIVE SQUARED LATIN CAPITAL LETTER W|NEGATIVE SQUARED LATIN CAPITAL LETTER X",
    "NEGATIVE SQUARED LATIN CAPITAL LETTER Y|NEGATIVE SQUARED LATIN CAPITAL LETTER Z",
    "CROSSED NEGATIVE SQUARED LATIN CAPITAL LETTER P|NEGATIVE SQUARED IC|NEGATIVE SQUARED PA",
    "NEGATIVE SQUARED SA|NEGATIVE SQUARED AB|NEGATIVE SQUARED WC|SQUARE DJ|SQUARED CL",
    "SQUARED COOL|SQUARED FREE|SQUARED ID|SQUARED NEW|SQUARED NG|SQUARED OK|SQUARED SOS",
    "SQUARED UP WITH EXCLAMATION MARK|SQUARED VS|SQUARED THREE D|SQUARED SECOND SCREEN",
    "SQUARED TWO K|SQUARED FOUR K|SQUARED EIGHT K|SQUARED FIVE POINT ONE|SQUARED SEVEN POINT ONE",
    "SQUARED TWENTY-TWO POINT TWO|SQUARED SIXTY P|SQUARED ONE HUNDRED TWENTY P",
    "SQUARED LATIN SMALL LETTER D|SQUARED HC|SQUARED HDR|SQUARED HI-RES|SQUARED LOSSLESS",
    "SQUARED SHV|SQUARED UHD|SQUARED VOD|MASK WORK SYMBOL"]⟩,
  ⟨0x1F1E6, [
    "REGIONAL INDICATOR SYMBOL LETTER A|REGIONAL INDICATOR SYMBOL LETTER B",
    "REGIONAL INDICATOR SYMBOL LETTER C|REGIONAL INDICATOR SYMBOL LETTER D",
    "REGIONAL INDICATOR SYMBOL LETTER E|REGIONAL INDICATOR SYMBOL LETTER F",
    "REGIONAL INDICATOR SYMBOL LETTER G|REGIONAL INDICATOR SYMBOL LETTER H",
    "REGIONAL INDICATOR SYMBOL LETTER I|REGIONAL INDICATOR SYMBOL LETTER J",
    "REGIONAL INDICATOR SYMBOL LETTER K|REGIONAL INDICATOR SYMBOL LETTER L",
    "REGIONAL INDICATOR SYMBOL LETTER M|REGIONAL INDICATOR SYMBOL LETTER N",
    "REGIONAL INDICATOR SYMBOL LETTER O|REGIONAL INDICATOR SYMBOL LETTER P",
    "REGIONAL INDICATOR SYMBOL LETTER Q|REGIONAL INDICATOR SYMBOL LETTER R",
    "REGIONAL INDICATOR SYMBOL LETTER S|REGIONAL INDICATOR SYMBOL LETTER T",
    "REGIONAL INDICATOR SYMBOL LETTER U|REGIONAL INDICATOR SYMBOL LETTER V",
    "REGIONAL INDICATOR SYMBOL LETTER W|REGIONAL INDICATOR SYMBOL LETTER X",
    "REGIONAL INDICATOR SYMBOL LETTER Y|REGIONAL INDICATOR SYMBOL LETTER Z"]⟩,
  ⟨0x1F300, [
    "CYCLONE|FOGGY|CLOSED UMBRELLA|NIGHT WITH STARS|SUNRISE OVER MOUNTAINS|SUNRISE",
    "CITYSCAPE AT DUSK|SUNSET OVER BUILDINGS|RAINBOW|BRIDGE AT NIGHT|WATER WAVE|VOLCANO|MILKY WAY",
    "EARTH GLOBE EUROPE-AFRICA|EARTH GLOBE AMERICAS|EARTH GLOBE ASIA-AUSTRALIA",
    "GLOBE WITH MERIDIANS|NEW MOON SYMBOL|WAXING CRESCENT MOON SYMBOL|FIRST QUARTER MOON SYMBOL",
    "WAXING GIBBOUS MOON SYMBOL|FULL MOON SYMBOL|WANING GIBBOUS MOON SYMBOL",
    "LAST QUARTER MOON SYMBOL|WANING CRESCENT MOON SYMBOL|CRESCENT MOON|NEW MOON WITH FACE",
    "FIRST QUARTER MOON WITH FACE|LAST QUARTER MOON WITH FACE|FULL MOON WITH FACE|SUN WITH FACE",
    "GLOWING STAR|SHOOTING STAR|THERMOMETER|BLACK DROPLET|WHITE SUN|WHITE SUN WITH SMALL CLOUD",
    "WHITE SUN BEHIND CLOUD|WHITE SUN BEHIND CLOUD WITH RAIN|CLOUD WITH RAIN|CLOUD WITH SNOW",
    "CLOUD WITH LIGHTNING|CLOUD WITH TORNADO|FOG|WIND BLOWING FACE|HOT DOG|TACO|BURRITO|CHESTNUT",
    "SEEDLING|EVERGREEN TREE|DECIDUOUS TREE|PALM TREE|CACTUS|HOT PEPPER|TULIP|CHERRY BLOSSOM|ROSE",
    "HIBISCUS|SUNFLOWER|BLOSSOM|EAR OF MAIZE|EAR OF RICE|HERB|FOUR LEAF CLOVER|MAPLE LEAF",
    "FALLEN LEAF|LEAF FLUTTERING IN WIND|MUSHROOM|TOMATO|AUBERGINE|GRAPES|MELON|WATERMELON",
    "TANGERINE|LEMON|BANANA|PINEAPPLE|RED APPLE|GREEN APPLE|PEAR|PEACH|CHERRIES|STRAWBERRY",
    "HAMBURGER|SLICE OF PIZZA|MEAT ON BONE|POULTRY LEG|RICE CRACKER|RICE BALL|COOKED RICE",
    "CURRY AND RICE|STEAMING BOWL|SPAGHETTI|BREAD|FRENCH FRIES|ROASTED SWEET POTATO|DANGO|ODEN",
    "SUSHI|FRIED SHRIMP|FISH CAKE WITH SWIRL DESIGN|SOFT ICE CREAM|SHAVED ICE|ICE CREAM|DOUGHNUT",
    "COOKIE|CHOCOLATE BAR|CANDY|LOLLIPOP|CUSTARD|HONEY POT|SHORTCAKE|BENTO BOX|POT OF FOOD",
    "COOKING|FORK AND KNIFE|TEACUP WITHOUT HANDLE|SAKE BOTTLE AND CUP|WINE GLASS|COCKTAIL GLASS",
    "TROPICAL DRINK|BEER MUG|CLINKING BEER MUGS|BABY BOTTLE|FORK AND KNIFE WITH PLATE",
    "BOTTLE WITH POPPING CORK|POPCORN|RIBBON|WRAPPED PRESENT|BIRTHDAY CAKE|JACK-O-LANTERN",
    "CHRISTMAS TREE|FATHER CHRISTMAS|FIREWORKS|FIREWORK SPARKLER|BALLOON|PARTY POPPER",
    "CONFETTI BALL|TANABATA TREE|CROSSED FLAGS|PINE DECORATION|JAPANESE DOLLS|CARP STREAMER",
    "WIND CHIME|MOON VIEWING CEREMONY|SCHOOL SATCHEL|GRADUATION CAP|HEART WITH TIP ON THE LEFT",
    "BOUQUET OF FLOWERS|MILITARY MEDAL|REMINDER RIBBON|MUSICAL KEYBOARD WITH JACKS",
    "STUDIO MICROPHONE|LEVEL SLIDER|CONTROL KNOBS|BEAMED ASCENDING MUSICAL NOTES",
    "BEAMED DESCENDING MUSICAL NOTES|FILM FRAMES|ADMISSION TICKETS|CAROUSEL HORSE|FERRIS WHEEL",
    "ROLLER COASTER|FISHING POLE AND FISH|MICROPHONE|MOVIE CAMERA|CINEMA|HEADPHONE|ARTIST PALETTE",
    "TOP HAT|CIRCUS TENT|TICKET|CLAPPER BOARD|PERFORMING ARTS|VIDEO GAME|DIRECT HIT|SLOT MACHINE",
    "BILLIARDS|GAME DIE|BOWLING|FLOWER PLAYING CARDS|MUSICAL NOTE|MULTIPLE MUSICAL NOTES",
    "SAXOPHONE|GUITAR|MUSICAL KEYBOARD|TRUMPET|VIOLIN|MUSICAL SCORE|RUNNING SHIRT WITH SASH",
    "TENNIS RACQUET AND BALL|SKI AND SKI BOOT|BASKETBALL AND HOOP|CHEQUERED FLAG|SNOWBOARDER",
    "RUNNER|SURFER|SPORTS MEDAL|TROPHY|HORSE RACING|AMERICAN FOOTBALL|RUGBY FOOTBALL|SWIMMER",
    "WEIGHT LIFTER|GOLFER|RACING MOTORCYCLE|RACING CAR|CRICKET BAT AND BALL|VOLLEYBALL",
    "FIELD HOCKEY STICK AND BALL|ICE HOCKEY STICK AND PUCK|TABLE TENNIS PADDLE AND BALL",
    "SNOW CAPPED MOUNTAIN|CAMPING|BEACH WITH UMBRELLA|BUILDING CONSTRUCTION|HOUSE BUILDINGS",
    "CITYSCAPE|DERELICT HOUSE BUILDING|CLASSICAL BUILDING|DESERT|DESERT ISLAND|NATIONAL PARK",
    "STADIUM|HOUSE BUILDING|HOUSE WITH GARDEN|OFFICE BUILDING|JAPANESE POST OFFICE",
    "EUROPEAN POST OFFICE|HOSPITAL|BANK|AUTOMATED TELLER MACHINE|HOTEL|LOVE HOTEL",
    "CONVENIENCE STORE|SCHOOL|DEPARTMENT STORE|FACTORY|IZAKAYA LANTERN|JAPANESE CASTLE",
    "EUROPEAN CASTLE|WHITE PENNANT|BLACK PENNANT|WAVING WHITE FLAG|WAVING BLACK FLAG|ROSETTE",
    "BLACK ROSETTE|LABEL|BADMINTON RACQUET AND SHUTTLECOCK|BOW AND ARROW|AMPHORA",
    "EMOJI MODIFIER FITZPATRICK TYPE-1-2|EMOJI MODIFIER FITZPATRICK TYPE-3",
    "EMOJI MODIFIER FITZPATRICK TYPE-4|EMOJI MODIFIER FITZPATRICK TYPE-5",
    "EMOJI MODIFIER FITZPATRICK TYPE-6|RAT|MOUSE|OX|WATER BUFFALO|COW|TIGER|LEOPARD|RABBIT|CAT",
    "DRAGON|CROCODILE|WHALE|SNAIL|SNAKE|HORSE|RAM|GOAT|SHEEP|MONKEY|ROOSTER|CHICKEN|DOG|PIG|BOAR",
    "ELEPHANT|OCTOPUS|SPIRAL SHELL|BUG|ANT|HONEYBEE|LADY BEETLE|FISH|TROPICAL FISH|BLOWFISH",
    "TURTLE|HATCHING CHICK|BABY CHICK|FRONT-FACING BABY CHICK|BIRD|PENGUIN|KOALA|POODLE",
    "DROMEDARY CAMEL|BACTRIAN CAMEL|DOLPHIN|MOUSE FACE|COW FACE|TIGER FACE|RABBIT FACE|CAT FACE",
    "DRAGON FACE|SPOUTING WHALE|HORSE FACE|MONKEY FACE|DOG FACE|PIG FACE|FROG FACE|HAMSTER FACE",
    "WOLF FACE|BEAR FACE|PANDA FACE|PIG NOSE|PAW PRINTS|CHIPMUNK|EYES|EYE|EAR|NOSE|MOUTH|TONGUE",
    "WHITE UP POINTING BACKHAND INDEX|WHITE DOWN POINTING BACKHAND INDEX",
    "WHITE LEFT POINTING BACKHAND INDEX|WHITE RIGHT POINTING BACKHAND INDEX|FISTED HAND SIGN",
    "WAVING HAND SIGN|OK HAND SIGN|THUMBS UP SIGN|THUMBS DOWN SIGN|CLAPPING HANDS SIGN",
    "OPEN HANDS SIGN|CROWN|WOMANS HAT|EYEGLASSES|NECKTIE|T-SHIRT|JEANS|DRESS|KIMONO|BIKINI",
    "WOMANS CLOTHES|PURSE|HANDBAG|POUCH|MANS SHOE|ATHLETIC SHOE|HIGH-HEELED SHOE|WOMANS SANDAL",
    "WOMANS BOOTS|FOOTPRINTS|BUST IN SILHOUETTE|BUSTS IN SILHOUETTE|BOY|GIRL|MAN|WOMAN|FAMILY",
    "MAN AND WOMAN HOLDING HANDS|TWO MEN HOLDING HANDS|TWO WOMEN HOLDING HANDS|POLICE OFFICER",
    "WOMAN WITH BUNNY EARS|BRIDE WITH VEIL|PERSON WITH BLOND HAIR|MAN WITH GUA PI MAO",
    "MAN WITH TURBAN|OLDER MAN|OLDER WOMAN|BABY|CONSTRUCTION WORKER|PRINCESS|JAPANESE OGRE",
    "JAPANESE GOBLIN|GHOST|BABY ANGEL|EXTRATERRESTRIAL ALIEN|ALIEN MONSTER|IMP|SKULL",
    "INFORMATION DESK PERSON|GUARDSMAN|DANCER|LIPSTICK|NAIL POLISH|FACE MASSAGE|HAIRCUT",
    "BARBER POLE|SYRINGE|PILL|KISS MARK|LOVE LETTER|RING|GEM STONE|KISS|BOUQUET|COUPLE WITH HEART",
    "WEDDING|BEATING HEART|BROKEN HEART|TWO HEARTS|SPARKLING HEART|GROWING HEART|HEART WITH ARROW",
    "BLUE HEART|GREEN HEART|YELLOW HEART|PURPLE HEART|HEART WITH RIBBON|REVOLVING HEARTS",
    "HEART DECORATION|DIAMOND SHAPE WITH A DOT INSIDE|ELECTRIC LIGHT BULB|ANGER SYMBOL|BOMB",
    "SLEEPING SYMBOL|COLLISION SYMBOL|SPLASHING SWEAT SYMBOL|DROPLET|DASH SYMBOL|PILE OF POO",
    "FLEXED BICEPS|DIZZY SYMBOL|SPEECH BALLOON|THOUGHT BALLOON|WHITE FLOWER|HUNDRED POINTS SYMBOL",
    "MONEY BAG|CURRENCY EXCHANGE|HEAVY DOLLAR SIGN|CREDIT CARD|BANKNOTE WITH YEN SIGN",
    "BANKNOTE WITH DOLLAR SIGN|BANKNOTE WITH EURO SIGN|BANKNOTE WITH POUND SIGN|MONEY WITH WINGS",
    "CHART WITH UPWARDS TREND AND YEN SIGN|SEAT|PERSONAL COMPUTER|BRIEFCASE|MINIDISC|FLOPPY DISK",
    "OPTICAL DISC|DVD|FILE FOLDER|OPEN FILE FOLDER|PAGE WITH CURL|PAGE FACING UP|CALENDAR",
    "TEAR-OFF CALENDAR|CARD INDEX|CHART WITH UPWARDS TREND|CHART WITH DOWNWARDS TREND|BAR CHART",
    "CLIPBOARD|PUSHPIN|ROUND PUSHPIN|PAPERCLIP|STRAIGHT RULER|TRIANGULAR RULER|BOOKMARK TABS",
    "LEDGER|NOTEBOOK|NOTEBOOK WITH DECORATIVE COVER|CLOSED BOOK|OPEN BOOK|GREEN BOOK|BLUE BOOK",
    "ORANGE BOOK|BOOKS|NAME BADGE|SCROLL|MEMO|TELEPHONE RECEIVER|PAGER|FAX MACHINE",
    "SATELLITE ANTENNA|PUBLIC ADDRESS LOUDSPEAKER|CHEERING MEGAPHONE|OUTBOX TRAY|INBOX TRAY",
    "PACKAGE|E-MAIL SYMBOL|INCOMING ENVELOPE|ENVELOPE WITH DOWNWARDS ARROW ABOVE",
    "CLOSED MAILBOX WITH LOWERED FLAG|CLOSED MAILBOX WITH RAISED FLAG",
    "OPEN MAILBOX WITH RAISED FLAG|OPEN MAILBOX WITH LOWERED FLAG|POSTBOX|POSTAL HORN|NEWSPAPER",
    "MOBILE PHONE|MOBILE PHONE WITH RIGHTWARDS ARROW AT LEFT|VIBRATION MODE|MOBILE PHONE OFF",
    "NO MOBILE PHONES|ANTENNA WITH BARS|CAMERA|CAMERA WITH FLASH|VIDEO CAMERA|TELEVISION|RADIO",
    "VIDEOCASSETTE|FILM PROJECTOR|PORTABLE STEREO|PRAYER BEADS|TWISTED RIGHTWARDS ARROWS",
    "CLOCKWISE RIGHTWARDS AND LEFTWARDS OPEN CIRCLE ARROWS",
    "CLOCKWISE RIGHTWARDS AND LEFTWARDS OPEN CIRCLE ARROWS WITH CIRCLED ONE OVERLAY",
    "CLOCKWISE DOWNWARDS AND UPWARDS OPEN CIRCLE ARROWS",
    "ANTICLOCKWISE DOWNWARDS AND UPWARDS OPEN CIRCLE ARROWS|LOW BRIGHTNESS SYMBOL",
    "HIGH BRIGHTNESS SYMBOL|SPEAKER WITH CANCELLATION STROKE|SPEAKER|SPEAKER WITH ONE SOUND WAVE",
    "SPEAKER WITH THREE SOUND WAVES|BATTERY|ELECTRIC PLUG|LEFT-POINTING MAGNIFYING GLASS",
    "RIGHT-POINTING MAGNIFYING GLASS|LOCK WITH INK PEN|CLOSED LOCK WITH KEY|KEY|LOCK|OPEN LOCK",
    "BELL|BELL WITH CANCELLATION STROKE|BOOKMARK|LINK SYMBOL|RADIO BUTTON",
    "BACK WITH LEFTWARDS ARROW ABOVE|END WITH LEFTWARDS ARROW ABOVE",
    "ON WITH EXCLAMATION MARK WITH LEFT RIGHT ARROW ABOVE|SOON WITH RIGHTWARDS ARROW ABOVE",
    "TOP WITH UPWARDS ARROW ABOVE|NO ONE UNDER EIGHTEEN SYMBOL|KEYCAP TEN",
    "INPUT SYMBOL FOR LATIN CAPITAL LETTERS|INPUT SYMBOL FOR LATIN SMALL LETTERS",
    "INPUT SYMBOL FOR NUMBERS|INPUT SYMBOL FOR SYMBOLS|INPUT SYMBOL FOR LATIN LETTERS|FIRE",
    "ELECTRIC TORCH|WRENCH|HAMMER|NUT AND BOLT|HOCHO|PISTOL|MICROSCOPE|TELESCOPE|CRYSTAL BALL",
    "SIX POINTED STAR WITH MIDDLE DOT|JAPANESE SYMBOL FOR BEGINNER|TRIDENT EMBLEM",
    "BLACK SQUARE BUTTON|WHITE SQUARE BUTTON|LARGE RED CIRCLE|LARGE BLUE CIRCLE",
    "LARGE ORANGE DIAMOND|LARGE BLUE DIAMOND|SMALL ORANGE DIAMOND|SMALL BLUE DIAMOND",
    "UP-POINTING RED TRIANGLE|DOWN-POINTING RED TRIANGLE|UP-POINTING SMALL RED TRIANGLE",
    "DOWN-POINTING SMALL RED TRIANGLE|LOWER RIGHT SHADOWED WHITE CIRCLE",
    "UPPER RIGHT SHADOWED WHITE CIRCLE|CIRCLED CROSS POMMEE|CROSS POMMEE WITH HALF-CIRCLE BELOW",
    "CROSS POMMEE|NOTCHED LEFT SEMICIRCLE WITH THREE DOTS",
    "NOTCHED RIGHT SEMICIRCLE WITH THREE DOTS|SYMBOL FOR MARKS CHAPTER|WHITE LATIN CROSS",
    "HEAVY LATIN CROSS|CELTIC CROSS|OM SYMBOL|DOVE OF PEACE|KAABA|MOSQUE|SYNAGOGUE",
    "MENORAH WITH NINE BRANCHES|BOWL OF HYGIEIA|CLOCK FACE ONE OCLOCK|CLOCK FACE TWO OCLOCK",
    "CLOCK FACE THREE OCLOCK|CLOCK FACE FOUR OCLOCK|CLOCK FACE FIVE OCLOCK|CLOCK FACE SIX OCLOCK",
    "CLOCK FACE SEVEN OCLOCK|CLOCK FACE EIGHT OCLOCK|CLOCK FACE NINE OCLOCK|CLOCK FACE TEN OCLOCK",
    "CLOCK FACE ELEVEN OCLOCK|CLOCK FACE TWELVE OCLOCK|CLOCK FACE ONE-THIRTY",
    "CLOCK FACE TWO-THIRTY|CLOCK FACE THREE-THIRTY|CLOCK FACE FOUR-THIRTY|CLOCK FACE FIVE-THIRTY",
    "CLOCK FACE SIX-THIRTY|CLOCK FACE SEVEN-THIRTY|CLOCK FACE EIGHT-THIRTY|CLOCK FACE NINE-THIRTY",
    "CLOCK FACE TEN-THIRTY|CLOCK FACE ELEVEN-THIRTY|CLOCK FACE TWELVE-THIRTY|RIGHT SPEAKER",
    "RIGHT SPEAKER WITH ONE SOUND WAVE|RIGHT SPEAKER WITH THREE SOUND WAVES|BULLHORN",
    "BULLHORN WITH SOUND WAVES|RINGING BELL|BOOK|CANDLE|MANTELPIECE CLOCK",
    "BLACK SKULL AND CROSSBONES|NO PIRACY|HOLE|MAN IN BUSINESS SUIT LEVITATING|SLEUTH OR SPY",
    "DARK SUNGLASSES|SPIDER|SPIDER WEB|JOYSTICK|MAN DANCING|LEFT HAND TELEPHONE RECEIVER",
    "TELEPHONE RECEIVER WITH PAGE|RIGHT HAND TELEPHONE RECEIVER|WHITE TOUCHTONE TELEPHONE",
    "BLACK TOUCHTONE TELEPHONE|TELEPHONE ON TOP OF MODEM|CLAMSHELL MOBILE PHONE|BACK OF ENVELOPE",
    "STAMPED ENVELOPE|ENVELOPE WITH LIGHTNING|FLYING ENVELOPE|PEN OVER STAMPED ENVELOPE",
    "LINKED PAPERCLIPS|BLACK PUSHPIN|LOWER LEFT PENCIL|LOWER LEFT BALLPOINT PEN",
    "LOWER LEFT FOUNTAIN PEN|LOWER LEFT PAINTBRUSH|LOWER LEFT CRAYON|LEFT WRITING HAND",
    "TURNED OK HAND SIGN|RAISED HAND WITH FINGERS SPLAYED",
    "REVERSED RAISED HAND WITH FINGERS SPLAYED|REVERSED THUMBS UP SIGN|REVERSED THUMBS DOWN SIGN",
    "REVERSED VICTORY HAND|REVERSED HAND WITH MIDDLE FINGER EXTENDED",
    "RAISED HAND WITH PART BETWEEN MIDDLE AND RING FINGERS|WHITE DOWN POINTING LEFT HAND INDEX",
    "SIDEWAYS WHITE LEFT POINTING INDEX|SIDEWAYS WHITE RIGHT POINTING INDEX",
    "SIDEWAYS BLACK LEFT POINTING INDEX|SIDEWAYS BLACK RIGHT POINTING INDEX",
    "BLACK LEFT POINTING BACKHAND INDEX|BLACK RIGHT POINTING BACKHAND INDEX",
    "SIDEWAYS WHITE UP POINTING INDEX|SIDEWAYS WHITE DOWN POINTING INDEX",
    "SIDEWAYS BLACK UP POINTING INDEX|SIDEWAYS BLACK DOWN POINTING INDEX",
    "BLACK UP POINTING BACKHAND INDEX|BLACK DOWN POINTING BACKHAND INDEX|BLACK HEART",
    "DESKTOP COMPUTER|KEYBOARD AND MOUSE|THREE NETWORKED COMPUTERS|PRINTER|POCKET CALCULATOR",
    "BLACK HARD SHELL FLOPPY DISK|WHITE HARD SHELL FLOPPY DISK|SOFT SHELL FLOPPY DISK",
    "TAPE CARTRIDGE|WIRED KEYBOARD|ONE BUTTON MOUSE|TWO BUTTON MOUSE|THREE BUTTON MOUSE|TRACKBALL",
    "OLD PERSONAL COMPUTER|HARD DISK|SCREEN|PRINTER ICON|FAX ICON|OPTICAL DISC ICON",
    "DOCUMENT WITH TEXT|DOCUMENT WITH TEXT AND PICTURE|DOCUMENT WITH PICTURE|FRAME WITH PICTURE",
    "FRAME WITH TILES|FRAME WITH AN X|BLACK FOLDER|FOLDER|OPEN FOLDER|CARD INDEX DIVIDERS",
    "CARD FILE BOX|FILE CABINET|EMPTY NOTE|EMPTY NOTE PAGE|EMPTY NOTE PAD|NOTE|NOTE PAGE|NOTE PAD",
    "EMPTY DOCUMENT|EMPTY PAGE|EMPTY PAGES|DOCUMENT|PAGE|PAGES|WASTEBASKET|SPIRAL NOTE PAD",
    "SPIRAL CALENDAR PAD|DESKTOP WINDOW|MINIMIZE|MAXIMIZE|OVERLAP",
    "CLOCKWISE RIGHT AND LEFT SEMICIRCLE ARROWS|CANCELLATION X|INCREASE FONT SIZE SYMBOL",
    "DECREASE FONT SIZE SYMBOL|COMPRESSION|OLD KEY|ROLLED-UP NEWSPAPER|PAGE WITH CIRCLED TEXT",
    "STOCK CHART|DAGGER KNIFE|LIPS|SPEAKING HEAD IN SILHOUETTE|THREE RAYS ABOVE|THREE RAYS BELOW",
    "THREE RAYS LEFT|THREE RAYS RIGHT|LEFT SPEECH BUBBLE|RIGHT SPEECH BUBBLE|TWO SPEECH BUBBLES",
    "THREE SPEECH BUBBLES|LEFT THOUGHT BUBBLE|RIGHT THOUGHT BUBBLE|LEFT ANGER BUBBLE",
    "RIGHT ANGER BUBBLE|MOOD BUBBLE|LIGHTNING MOOD BUBBLE|LIGHTNING MOOD|BALLOT BOX WITH BALLOT",
    "BALLOT SCRIPT X|BALLOT BOX WITH SCRIPT X|BALLOT BOLD SCRIPT X|BALLOT BOX WITH BOLD SCRIPT X",
    "LIGHT CHECK MARK|BALLOT BOX WITH BOLD CHECK|WORLD MAP|MOUNT FUJI|TOKYO TOWER",
    "STATUE OF LIBERTY|SILHOUETTE OF JAPAN|MOYAI|GRINNING FACE|GRINNING FACE WITH SMILING EYES",
    "FACE WITH TEARS OF JOY|SMILING FACE WITH OPEN MOUTH",
    "SMILING FACE WITH OPEN MOUTH AND SMILING EYES|SMILING FACE WITH OPEN MOUTH AND COLD SWEAT",
    "SMILING FACE WITH OPEN MOUTH AND TIGHTLY-CLOSED EYES|SMILING FACE WITH HALO",
    "SMILING FACE WITH HORNS|WINKING FACE|SMILING FACE WITH SMILING EYES",
    "FACE SAVOURING DELICIOUS FOOD|RELIEVED FACE|SMILING FACE WITH HEART-SHAPED EYES",
    "SMILING FACE WITH SUNGLASSES|SMIRKING FACE|NEUTRAL FACE|EXPRESSIONLESS FACE|UNAMUSED FACE",
    "FACE WITH COLD SWEAT|PENSIVE FACE|CONFUSED FACE|CONFOUNDED FACE|KISSING FACE",
    "FACE THROWING A KISS|KISSING FACE WITH SMILING EYES|KISSING FACE WITH CLOSED EYES",
    "FACE WITH STUCK-OUT TONGUE|FACE WITH STUCK-OUT TONGUE AND WINKING EYE",
    "FACE WITH STUCK-OUT TONGUE AND TIGHTLY-CLOSED EYES|DISAPPOINTED FACE|WORRIED FACE|ANGRY FACE",
    "POUTING FACE|CRYING FACE|PERSEVERING FACE|FACE WITH LOOK OF TRIUMPH",
    "DISAPPOINTED BUT RELIEVED FACE|FROWNING FACE WITH OPEN MOUTH|ANGUISHED FACE|FEARFUL FACE",
    "WEARY FACE|SLEEPY FACE|TIRED FACE|GRIMACING FACE|LOUDLY CRYING FACE|FACE WITH OPEN MOUTH",
    "HUSHED FACE|FACE WITH OPEN MOUTH AND COLD SWEAT|FACE SCREAMING IN FEAR|ASTONISHED FACE",
    "FLUSHED FACE|SLEEPING FACE|DIZZY FACE|FACE WITHOUT MOUTH|FACE WITH MEDICAL MASK",
    "GRINNING CAT FACE WITH SMILING EYES|CAT FACE WITH TEARS OF JOY",
    "SMILING CAT FACE WITH OPEN MOUTH|SMILING CAT FACE WITH HEART-SHAPED EYES",
    "CAT FACE WITH WRY SMILE|KISSING CAT FACE WITH CLOSED EYES|POUTING CAT FACE|CRYING CAT FACE",
    "WEARY CAT FACE|SLIGHTLY FROWNING FACE|SLIGHTLY SMILING FACE|UPSIDE-DOWN FACE",
    "FACE WITH ROLLING EYES|FACE WITH NO GOOD GESTURE|FACE WITH OK GESTURE|PERSON BOWING DEEPLY",
    "SEE-NO-EVIL MONKEY|HEAR-NO-EVIL MONKEY|SPEAK-NO-EVIL MONKEY|HAPPY PERSON RAISING ONE HAND",
    "PERSON RAISING BOTH HANDS IN CELEBRATION|PERSON FROWNING|PERSON WITH POUTING FACE",
    "PERSON WITH FOLDED HANDS"]⟩,
  ⟨0x1F680, [
    "ROCKET|HELICOPTER|STEAM LOCOMOTIVE|RAILWAY CAR|HIGH-SPEED TRAIN",
    "HIGH-SPEED TRAIN WITH BULLET NOSE|TRAIN|METRO|LIGHT RAIL|STATION|TRAM|TRAM CAR|BUS",
    "ONCOMING BUS|TROLLEYBUS|BUS STOP|MINIBUS|AMBULANCE|FIRE ENGINE|POLICE CAR",
    "ONCOMING POLICE CAR|TAXI|ONCOMING TAXI|AUTOMOBILE|ONCOMING AUTOMOBILE|RECREATIONAL VEHICLE",
    "DELIVERY TRUCK|ARTICULATED LORRY|TRACTOR|MONORAIL|MOUNTAIN RAILWAY|SUSPENSION RAILWAY",
    "MOUNTAIN CABLEWAY|AERIAL TRAMWAY|SHIP|ROWBOAT|SPEEDBOAT|HORIZONTAL TRAFFIC LIGHT",
    "VERTICAL TRAFFIC LIGHT|CONSTRUCTION SIGN|POLICE CARS REVOLVING LIGHT|TRIANGULAR FLAG ON POST",
    "DOOR|NO ENTRY SIGN|SMOKING SYMBOL|NO SMOKING SYMBOL|PUT LITTER IN ITS PLACE SYMBOL",
    "DO NOT LITTER SYMBOL|POTABLE WATER SYMBOL|NON-POTABLE WATER SYMBOL|BICYCLE|NO BICYCLES",
    "BICYCLIST|MOUNTAIN BICYCLIST|PEDESTRIAN|NO PEDESTRIANS|CHILDREN CROSSING|MENS SYMBOL",
    "WOMENS SYMBOL|RESTROOM|BABY SYMBOL|TOILET|WATER CLOSET|SHOWER|BATH|BATHTUB|PASSPORT CONTROL",
    "CUSTOMS|BAGGAGE CLAIM|LEFT LUGGAGE|TRIANGLE WITH ROUNDED CORNERS|PROHIBITED SIGN",
    "CIRCLED INFORMATION SOURCE|BOYS SYMBOL|GIRLS SYMBOL|COUCH AND LAMP|SLEEPING ACCOMMODATION",
    "SHOPPING BAGS|BELLHOP BELL|BED|PLACE OF WORSHIP|OCTAGONAL SIGN|SHOPPING TROLLEY|STUPA|PAGODA",
    "HINDU TEMPLE|HUT|ELEVATOR"]⟩,
  ⟨0x1F6DD, [
    "PLAYGROUND SLIDE|WHEEL|RING BUOY|HAMMER AND WRENCH|SHIELD|OIL DRUM|MOTORWAY|RAILWAY TRACK",
    "MOTOR BOAT|UP-POINTING MILITARY AIRPLANE|UP-POINTING AIRPLANE|UP-POINTING SMALL AIRPLANE",
    "SMALL AIRPLANE|NORTHEAST-POINTING AIRPLANE|AIRPLANE DEPARTURE|AIRPLANE ARRIVING"]⟩,
  ⟨0x1F6F0, [
    "SATELLITE|ONCOMING FIRE ENGINE|DIESEL LOCOMOTIVE|PASSENGER SHIP|SCOOTER|MOTOR SCOOTER|CANOE",
    "SLED|FLYING SAUCER|SKATEBOARD|AUTO RICKSHAW|PICKUP TRUCK|ROLLER SKATE"]⟩,
  ⟨0x1F7E0, [
    "LARGE ORANGE CIRCLE|LARGE YELLOW CIRCLE|LARGE GREEN CIRCLE|LARGE PURPLE CIRCLE",
    "LARGE BROWN CIRCLE|LARGE RED SQUARE|LARGE BLUE SQUARE|LARGE ORANGE SQUARE",
    "LARGE YELLOW SQUARE|LARGE GREEN SQUARE|LARGE PURPLE SQUARE|LARGE BROWN SQUARE"]⟩,
  ⟨0x1F90C, [
    "PINCHED FINGERS|WHITE HEART|BROWN HEART|PINCHING HAND|ZIPPER-MOUTH FACE|MONEY-MOUTH FACE",
    "FACE WITH THERMOMETER|NERD FACE|THINKING FACE|FACE WITH HEAD-BANDAGE|ROBOT FACE|HUGGING FACE",
    "SIGN OF THE HORNS|CALL ME HAND|RAISED BACK OF HAND|LEFT-FACING FIST|RIGHT-FACING FIST",
    "HANDSHAKE|HAND WITH INDEX AND MIDDLE FINGERS CROSSED|I LOVE YOU HAND SIGN",
    "FACE WITH COWBOY HAT|CLOWN FACE|NAUSEATED FACE|ROLLING ON THE FLOOR LAUGHING|DROOLING FACE",
    "LYING FACE|FACE PALM|SNEEZING FACE|FACE WITH ONE EYEBROW RAISED|GRINNING FACE WITH STAR EYES",
    "GRINNING FACE WITH ONE LARGE AND ONE SMALL EYE|FACE WITH FINGER COVERING CLOSED LIPS",
    "SERIOUS FACE WITH SYMBOLS COVERING MOUTH",
    "SMILING FACE WITH SMILING EYES AND HAND COVERING MOUTH|FACE WITH OPEN MOUTH VOMITING",
    "SHOCKED FACE WITH EXPLODING HEAD|PREGNANT WOMAN|BREAST-FEEDING|PALMS UP TOGETHER|SELFIE",
    "PRINCE|MAN IN TUXEDO|MOTHER CHRISTMAS|SHRUG|PERSON DOING CARTWHEEL|JUGGLING|FENCER",
    "MODERN PENTATHLON|WRESTLERS|WATER POLO|HANDBALL|DIVING MASK|WILTED FLOWER",
    "DRUM WITH DRUMSTICKS|CLINKING GLASSES|TUMBLER GLASS|SPOON|GOAL NET|RIFLE|FIRST PLACE MEDAL",
    "SECOND PLACE MEDAL|THIRD PLACE MEDAL|BOXING GLOVE|MARTIAL ARTS UNIFORM|CURLING STONE",
    "LACROSSE STICK AND BALL|SOFTBALL|FLYING DISC|CROISSANT|AVOCADO|CUCUMBER|BACON|POTATO|CARROT",
    "BAGUETTE BREAD|GREEN SALAD|SHALLOW PAN OF FOOD|STUFFED FLATBREAD|EGG|GLASS OF MILK|PEANUTS",
    "KIWIFRUIT|PANCAKES|DUMPLING|FORTUNE COOKIE|TAKEOUT BOX|CHOPSTICKS|BOWL WITH SPOON",
    "CUP WITH STRAW|COCONUT|BROCCOLI|PIE|PRETZEL|CUT OF MEAT|SANDWICH|CANNED FOOD|LEAFY GREEN",
    "MANGO|MOON CAKE|BAGEL|SMILING FACE WITH SMILING EYES AND THREE HEARTS|YAWNING FACE",
    "SMILING FACE WITH TEAR|FACE WITH PARTY HORN AND PARTY HAT",
    "FACE WITH UNEVEN EYES AND WAVY MOUTH|OVERHEATED FACE|FREEZING FACE|NINJA|DISGUISED FACE",
    "FACE HOLDING BACK TEARS|FACE WITH PLEADING EYES|SARI|LAB COAT|GOGGLES|HIKING BOOT|FLAT SHOE",
    "CRAB|LION FACE|SCORPION|TURKEY|UNICORN FACE|EAGLE|DUCK|BAT|SHARK|OWL|FOX FACE|BUTTERFLY|DEER",
    "GORILLA|LIZARD|RHINOCEROS|SHRIMP|SQUID|GIRAFFE FACE|ZEBRA FACE|HEDGEHOG|SAUROPOD|T-REX",
    "CRICKET|KANGAROO|LLAMA|PEACOCK|HIPPOPOTAMUS|PARROT|RACCOON|LOBSTER|MOSQUITO|MICROBE|BADGER",
    "SWAN|MAMMOTH|DODO|SLOTH|OTTER|ORANGUTAN|SKUNK|FLAMINGO|OYSTER|BEAVER|BISON|SEAL|GUIDE DOG",
    "PROBING CANE|EMOJI COMPONENT RED HAIR|EMOJI COMPONENT CURLY HAIR|EMOJI COMPONENT BALD",
    "EMOJI COMPONENT WHITE HAIR|BONE|LEG|FOOT|TOOTH|SUPERHERO|SUPERVILLAIN|SAFETY VEST",
    "EAR WITH HEARING AID|MOTORIZED WHEELCHAIR|MANUAL WHEELCHAIR|MECHANICAL ARM|MECHANICAL LEG",
    "CHEESE WEDGE|CUPCAKE|SALT SHAKER|BEVERAGE BOX|GARLIC|ONION|FALAFEL|WAFFLE|BUTTER|MATE DRINK",
    "ICE CUBE|BUBBLE TEA|TROLL|STANDING PERSON|KNEELING PERSON|DEAF PERSON|FACE WITH MONOCLE",
    "ADULT|CHILD|OLDER ADULT|BEARDED PERSON|PERSON WITH HEADSCARF|PERSON IN STEAMY ROOM",
    "PERSON CLIMBING|PERSON IN LOTUS POSITION|MAGE|FAIRY|VAMPIRE|MERPERSON|ELF|GENIE|ZOMBIE|BRAIN",
    "ORANGE HEART|BILLED CAP|SCARF|GLOVES|COAT|SOCKS|RED GIFT ENVELOPE|FIRECRACKER",
    "JIGSAW PUZZLE PIECE|TEST TUBE|PETRI DISH|DNA DOUBLE HELIX|COMPASS|ABACUS|FIRE EXTINGUISHER",
    "TOOLBOX|BRICK|MAGNET|LUGGAGE|LOTION BOTTLE|SPOOL OF THREAD|BALL OF YARN|SAFETY PIN",
    "TEDDY BEAR|BROOM|BASKET|ROLL OF PAPER|BAR OF SOAP|SPONGE|RECEIPT|NAZAR AMULET"]⟩,
  ⟨0x1FA70, [
    "BALLET SHOES|ONE-PIECE SWIMSUIT|BRIEFS|SHORTS|THONG SANDAL"]⟩,
  ⟨0x1FA78, [
    "DROP OF BLOOD|ADHESIVE BANDAGE|STETHOSCOPE|X-RAY|CRUTCH"]⟩,
  ⟨0x1FA80, [
    "YO-YO|KITE|PARACHUTE|BOOMERANG|MAGIC WAND|PINATA|NESTING DOLLS"]⟩,
  ⟨0x1FA90, [
    "RINGED PLANET|CHAIR|RAZOR|AXE|DIYA LAMP|BANJO|MILITARY HELMET|ACCORDION|LONG DRUM|COIN",
    "CARPENTRY SAW|SCREWDRIVER|LADDER|HOOK|MIRROR|WINDOW|PLUNGER|SEWING NEEDLE|KNOT|BUCKET",
    "MOUSE TRAP|TOOTHBRUSH|HEADSTONE|PLACARD|ROCK|MIRROR BALL|IDENTIFICATION CARD|LOW BATTERY",
    "HAMSA"]⟩,
  ⟨0x1FAB0, [
    "FLY|WORM|BEETLE|COCKROACH|POTTED PLANT|WOOD|FEATHER|LOTUS|CORAL|EMPTY NEST|NEST WITH EGGS"]⟩,
  ⟨0x1FAC0, [
    "ANATOMICAL HEART|LUNGS|PEOPLE HUGGING|PREGNANT MAN|PREGNANT PERSON|PERSON WITH CROWN"]⟩,
  ⟨0x1FAD0, [
    "BLUEBERRIES|BELL PEPPER|OLIVE|FLATBREAD|TAMALE|FONDUE|TEAPOT|POURING LIQUID|BEANS|JAR"]⟩,
  ⟨0x1FAE0, [
    "MELTING FACE|SALUTING FACE|FACE WITH OPEN EYES AND HAND OVER MOUTH|FACE WITH PEEKING EYE",
    "FACE WITH DIAGONAL MOUTH|DOTTED LINE FACE|BITING LIP|BUBBLES"]⟩,
  ⟨0x1FAF0, [
    "HAND WITH INDEX FINGER AND THUMB CROSSED|RIGHTWARDS HAND|LEFTWARDS HAND|PALM DOWN HAND",
    "PALM UP HAND|INDEX POINTING AT THE VIEWER|HEART HANDS"]⟩]

end SecurityScan.Text.CharacterName
