/-!
Characters that a domain name may have (`v`), that fall away (`i`) and that it may not have (`x`).
The value of an entry holds up to the next one; replaced characters are left out.
-/

namespace TokenAcquisition.Url.DomainName

def standingTable : String :=
  "
    0=v 80=x A1=v AD=i AE=v 34F=i 350=v 378=x 37B=v 380=x 390=v 3A2=x 3AC=v 530=x 559=v 58B=x
    58D=v 590=x 591=v 5C8=x 5D0=v 5EB=x 5EF=v 5F5=x 606=v 61C=x 61D=v 6DD=x 6DE=v 70E=x 710=v
    74B=x 74D=v 7B2=x 7C0=v 7FB=x 7FD=v 82E=x 830=v 83F=x 840=v 85C=x 85E=v 85F=x 860=v 86B=x
    870=v 890=x 897=v 8E2=x 8E3=v 984=x 985=v 98D=x 98F=v 991=x 993=v 9A9=x 9AA=v 9B1=x 9B2=v
    9B3=x 9B6=v 9BA=x 9BC=v 9C5=x 9C7=v 9C9=x 9CB=v 9CF=x 9D7=v 9D8=x 9E0=v 9E4=x 9E6=v 9FF=x
    A01=v A04=x A05=v A0B=x A0F=v A11=x A13=v A29=x A2A=v A31=x A32=v A34=x A35=v A37=x A38=v
    A3A=x A3C=v A3D=x A3E=v A43=x A47=v A49=x A4B=v A4E=x A51=v A52=x A5C=v A5D=x A66=v A77=x
    A81=v A84=x A85=v A8E=x A8F=v A92=x A93=v AA9=x AAA=v AB1=x AB2=v AB4=x AB5=v ABA=x ABC=v
    AC6=x AC7=v ACA=x ACB=v ACE=x AD0=v AD1=x AE0=v AE4=x AE6=v AF2=x AF9=v B00=x B01=v B04=x
    B05=v B0D=x B0F=v B11=x B13=v B29=x B2A=v B31=x B32=v B34=x B35=v B3A=x B3C=v B45=x B47=v
    B49=x B4B=v B4E=x B55=v B58=x B5F=v B64=x B66=v B78=x B82=v B84=x B85=v B8B=x B8E=v B91=x
    B92=v B96=x B99=v B9B=x B9C=v B9D=x B9E=v BA0=x BA3=v BA5=x BA8=v BAB=x BAE=v BBA=x BBE=v
    BC3=x BC6=v BC9=x BCA=v BCE=x BD0=v BD1=x BD7=v BD8=x BE6=v BFB=x C00=v C0D=x C0E=v C11=x
    C12=v C29=x C2A=v C3A=x C3C=v C45=x C46=v C49=x C4A=v C4E=x C55=v C57=x C58=v C5B=x C5C=v
    C5E=x C60=v C64=x C66=v C70=x C77=v C8D=x C8E=v C91=x C92=v CA9=x CAA=v CB4=x CB5=v CBA=x
    CBC=v CC5=x CC6=v CC9=x CCA=v CCE=x CD5=v CD7=x CDC=v CDF=x CE0=v CE4=x CE6=v CF0=x CF1=v
    CF4=x D00=v D0D=x D0E=v D11=x D12=v D45=x D46=v D49=x D4A=v D50=x D54=v D64=x D66=v D80=x
    D81=v D84=x D85=v D97=x D9A=v DB2=x DB3=v DBC=x DBD=v DBE=x DC0=v DC7=x DCA=v DCB=x DCF=v
    DD5=x DD6=v DD7=x DD8=v DE0=x DE6=v DF0=x DF2=v DF5=x E01=v E3B=x E3F=v E5C=x E81=v E83=x
    E84=v E85=x E86=v E8B=x E8C=v EA4=x EA5=v EA6=x EA7=v EBE=x EC0=v EC5=x EC6=v EC7=x EC8=v
    ECF=x ED0=v EDA=x EDE=v EE0=x F00=v F48=x F49=v F6D=x F71=v F98=x F99=v FBD=x FBE=v FCD=x
    FCE=v FDB=x 1000=v 10C6=x 10D0=v 115F=i 1161=v 1249=x 124A=v 124E=x 1250=v 1257=x 1258=v
    1259=x 125A=v 125E=x 1260=v 1289=x 128A=v 128E=x 1290=v 12B1=x 12B2=v 12B6=x 12B8=v 12BF=x
    12C0=v 12C1=x 12C2=v 12C6=x 12C8=v 12D7=x 12D8=v 1311=x 1312=v 1316=x 1318=v 135B=x 135D=v
    137D=x 1380=v 139A=x 13A0=v 13F6=x 1400=v 1680=x 1681=v 169D=x 16A0=v 16F9=x 1700=v 1716=x
    171F=v 1737=x 1740=v 1754=x 1760=v 176D=x 176E=v 1771=x 1772=v 1774=x 1780=v 17B4=i 17B6=v
    17DE=x 17E0=v 17EA=x 17F0=v 17FA=x 1800=v 180B=i 1810=v 181A=x 1820=v 1879=x 1880=v 18AB=x
    18B0=v 18F6=x 1900=v 191F=x 1920=v 192C=x 1930=v 193C=x 1940=v 1941=x 1944=v 196E=x 1970=v
    1975=x 1980=v 19AC=x 19B0=v 19CA=x 19D0=v 19DB=x 19DE=v 1A1C=x 1A1E=v 1A5F=x 1A60=v 1A7D=x
    1A7F=v 1A8A=x 1A90=v 1A9A=x 1AA0=v 1AAE=x 1AB0=v 1ADE=x 1AE0=v 1AEC=x 1B00=v 1B4D=x 1B4E=v
    1BF4=x 1BFC=v 1C38=x 1C3B=v 1C4A=x 1C4D=v 1C8B=x 1CC0=v 1CC8=x 1CD0=v 1CFB=x 1D00=v 1F16=x
    1F20=v 1F46=x 1F50=v 1F58=x 1F60=v 1F7E=x 1FB0=v 1FB5=x 1FB6=v 1FC5=x 1FC6=v 1FD4=x 1FD6=v
    1FDC=x 1FE0=v 1FF0=x 1FF6=v 1FFF=x 200B=i 200C=v 200E=x 2010=v 2024=x 2027=v 2028=x 2030=v
    2060=i 2065=x 206A=i 2072=x 208F=v 20C4=x 20D0=v 20F1=x 2104=v 218C=x 2190=v 242A=x 2440=v
    244B=x 24EB=v 2B74=x 2B76=v 2CF4=x 2CF9=v 2D26=x 2D27=v 2D28=x 2D2D=v 2D2E=x 2D30=v 2D68=x
    2D70=v 2D71=x 2D7F=v 2D97=x 2DA0=v 2DA7=x 2DA8=v 2DAF=x 2DB0=v 2DB7=x 2DB8=v 2DBF=x 2DC0=v
    2DC7=x 2DC8=v 2DCF=x 2DD0=v 2DD7=x 2DD8=v 2DDF=x 2DE0=v 2E61=x 2E80=v 2E9A=x 2E9B=v 2EF4=x
    3001=v 3040=x 3041=v 3097=x 3099=v 3100=x 3105=v 3130=x 3164=i 318F=x 3190=v 31E6=x 31F0=v
    321F=x 3248=v 33C2=x 3400=v A48D=x A490=v A4C7=x A4D0=v A62C=x A641=v A6F8=x A700=v A7DD=x
    A7F6=v A82D=x A830=v A83A=x A840=v A878=x A880=v A8C6=x A8CE=v A8DA=x A8E0=v A954=x A95F=v
    A97D=x A980=v A9CE=x A9CF=v A9DA=x A9DE=v A9FF=x AA00=v AA37=x AA40=v AA4E=x AA50=v AA5A=x
    AA5C=v AAC3=x AADB=v AAF7=x AB01=v AB07=x AB09=v AB0F=x AB11=v AB17=x AB20=v AB27=x AB28=v
    AB2F=x AB30=v AB6C=x ABC0=v ABEE=x ABF0=v ABFA=x AC00=v D7A4=x D7B0=v D7C7=x D7CB=v D7FC=x
    FA0E=v FA6E=x FB1E=v FB37=x FBB2=v FDD0=x FDFD=v FE00=i FE12=x FE20=v FE30=x FE45=v FE52=x
    FE73=v FE75=x FEFF=i FF00=x FFA0=i FFBF=x 10000=v 1000C=x 1000D=v 10027=x 10028=v 1003B=x
    1003C=v 1003E=x 1003F=v 1004E=x 10050=v 1005E=x 10080=v 100FB=x 10100=v 10103=x 10107=v
    10134=x 10137=v 1018F=x 10190=v 1019D=x 101A0=v 101A1=x 101D0=v 101FE=x 10280=v 1029D=x
    102A0=v 102D1=x 102E0=v 102FC=x 10300=v 10324=x 1032D=v 1034B=x 10350=v 1037B=x 10380=v
    1039E=x 1039F=v 103C4=x 103C8=v 103D6=x 10428=v 1049E=x 104A0=v 104AA=x 104D8=v 104FC=x
    10500=v 10528=x 10530=v 10564=x 1056F=v 1057B=x 10597=v 105A2=x 105A3=v 105B2=x 105B3=v
    105BA=x 105BB=v 105BD=x 105C0=v 105F4=x 10600=v 10737=x 10740=v 10756=x 10760=v 10768=x
    10780=v 10786=x 10800=v 10806=x 10808=v 10809=x 1080A=v 10836=x 10837=v 10839=x 1083C=v
    1083D=x 1083F=v 10856=x 10857=v 1089F=x 108A7=v 108B0=x 108E0=v 108F3=x 108F4=v 108F6=x
    108FB=v 1091C=x 1091F=v 1093A=x 1093F=v 1095A=x 10980=v 109B8=x 109BC=v 109D0=x 109D2=v
    10A04=x 10A05=v 10A07=x 10A0C=v 10A14=x 10A15=v 10A18=x 10A19=v 10A36=x 10A38=v 10A3B=x
    10A3F=v 10A49=x 10A50=v 10A59=x 10A60=v 10AA0=x 10AC0=v 10AE7=x 10AEB=v 10AF7=x 10B00=v
    10B36=x 10B39=v 10B56=x 10B58=v 10B73=x 10B78=v 10B92=x 10B99=v 10B9D=x 10BA9=v 10BB0=x
    10C00=v 10C49=x 10CC0=v 10CF3=x 10CFA=v 10D28=x 10D30=v 10D3A=x 10D40=v 10D66=x 10D69=v
    10D86=x 10D8E=v 10D90=x 10E60=v 10E7F=x 10E80=v 10EAA=x 10EAB=v 10EAE=x 10EB0=v 10EB2=x
    10EC2=v 10EC8=x 10ED0=v 10ED9=x 10EFA=v 10F28=x 10F30=v 10F5A=x 10F70=v 10F8A=x 10FB0=v
    10FCC=x 10FE0=v 10FF7=x 11000=v 1104E=x 11052=v 11076=x 1107F=v 110BD=x 110BE=v 110C3=x
    110D0=v 110E9=x 110F0=v 110FA=x 11100=v 11135=x 11136=v 11148=x 11150=v 11177=x 11180=v
    111E0=x 111E1=v 111F5=x 11200=v 11212=x 11213=v 11242=x 11280=v 11287=x 11288=v 11289=x
    1128A=v 1128E=x 1128F=v 1129E=x 1129F=v 112AA=x 112B0=v 112EB=x 112F0=v 112FA=x 11300=v
    11304=x 11305=v 1130D=x 1130F=v 11311=x 11313=v 11329=x 1132A=v 11331=x 11332=v 11334=x
    11335=v 1133A=x 1133B=v 11345=x 11347=v 11349=x 1134B=v 1134E=x 11350=v 11351=x 11357=v
    11358=x 1135D=v 11364=x 11366=v 1136D=x 11370=v 11375=x 11380=v 1138A=x 1138B=v 1138C=x
    1138E=v 1138F=x 11390=v 113B6=x 113B7=v 113C1=x 113C2=v 113C3=x 113C5=v 113C6=x 113C7=v
    113CB=x 113CC=v 113D6=x 113D7=v 113D9=x 113E1=v 113E3=x 11400=v 1145C=x 1145D=v 11462=x
    11480=v 114C8=x 114D0=v 114DA=x 11580=v 115B6=x 115B8=v 115DE=x 11600=v 11645=x 11650=v
    1165A=x 11660=v 1166D=x 11680=v 116BA=x 116C0=v 116CA=x 116D0=v 116E4=x 11700=v 1171B=x
    1171D=v 1172C=x 11730=v 11747=x 11800=v 1183C=x 118C0=v 118F3=x 118FF=v 11907=x 11909=v
    1190A=x 1190C=v 11914=x 11915=v 11917=x 11918=v 11936=x 11937=v 11939=x 1193B=v 11947=x
    11950=v 1195A=x 119A0=v 119A8=x 119AA=v 119D8=x 119DA=v 119E5=x 11A00=v 11A48=x 11A50=v
    11AA3=x 11AB0=v 11AF9=x 11B00=v 11B0A=x 11B60=v 11B68=x 11BC0=v 11BE2=x 11BF0=v 11BFA=x
    11C00=v 11C09=x 11C0A=v 11C37=x 11C38=v 11C46=x 11C50=v 11C6D=x 11C70=v 11C90=x 11C92=v
    11CA8=x 11CA9=v 11CB7=x 11D00=v 11D07=x 11D08=v 11D0A=x 11D0B=v 11D37=x 11D3A=v 11D3B=x
    11D3C=v 11D3E=x 11D3F=v 11D48=x 11D50=v 11D5A=x 11D60=v 11D66=x 11D67=v 11D69=x 11D6A=v
    11D8F=x 11D90=v 11D92=x 11D93=v 11D99=x 11DA0=v 11DAA=x 11DB0=v 11DDC=x 11DE0=v 11DEA=x
    11EE0=v 11EF9=x 11F00=v 11F11=x 11F12=v 11F3B=x 11F3E=v 11F5B=x 11FB0=v 11FB1=x 11FC0=v
    11FF2=x 11FFF=v 1239A=x 12400=v 1246F=x 12470=v 12475=x 12480=v 12544=x 12550=v 12687=x
    12F90=v 12FF3=x 13000=v 13430=x 13440=v 13456=x 13460=v 143FB=x 14400=v 14647=x 16100=v
    1613A=x 16800=v 16A39=x 16A40=v 16A5F=x 16A60=v 16A6A=x 16A6E=v 16ABF=x 16AC0=v 16ACA=x
    16AD0=v 16AEE=x 16AF0=v 16AF6=x 16B00=v 16B46=x 16B50=v 16B5A=x 16B5B=v 16B62=x 16B63=v
    16B78=x 16B7D=v 16B90=x 16D40=v 16D7A=x 16D80=v 16D9E=x 16DA0=v 16DAA=x 16E60=v 16E9B=x
    16EBB=v 16ED4=x 16F00=v 16F4B=x 16F4F=v 16F88=x 16F8F=v 16FA0=x 16FE0=v 16FE5=x 16FF0=v
    16FF7=x 17000=v 18CD6=x 18CFF=v 18D1F=x 18D80=v 18DF3=x 18E00=v 19192=x 191A0=v 191D3=x
    1AFF0=v 1AFF4=x 1AFF5=v 1AFFC=x 1AFFD=v 1AFFF=x 1B000=v 1B123=x 1B132=v 1B133=x 1B150=v
    1B153=x 1B155=v 1B156=x 1B164=v 1B168=x 1B170=v 1B2FC=x 1BC00=v 1BC6B=x 1BC70=v 1BC7D=x
    1BC80=v 1BC89=x 1BC90=v 1BC9A=x 1BC9C=v 1BCA0=i 1BCA4=x 1CC00=v 1CCFD=x 1CD00=v 1CEB4=x
    1CEBA=v 1CED1=x 1CEE0=v 1CEF1=x 1CF00=v 1CF2E=x 1CF30=v 1CF47=x 1CF50=v 1CFC4=x 1D000=v
    1D0F6=x 1D100=v 1D173=i 1D17B=v 1D246=x 1D250=v 1D290=x 1D2C0=v 1D2D4=x 1D2E0=v 1D2F4=x
    1D300=v 1D357=x 1D360=v 1D379=x 1D800=v 1DA8C=x 1DA9B=v 1DAA0=x 1DAA1=v 1DAB0=x 1DF00=v
    1DF1F=x 1DF25=v 1E007=x 1E008=v 1E019=x 1E01B=v 1E022=x 1E023=v 1E025=x 1E026=v 1E02B=x
    1E08F=v 1E090=x 1E100=v 1E12D=x 1E130=v 1E13E=x 1E140=v 1E14A=x 1E14E=v 1E150=x 1E290=v
    1E2AF=x 1E2C0=v 1E2FA=x 1E2FF=v 1E300=x 1E4D0=v 1E4FA=x 1E5D0=v 1E5FB=x 1E5FF=v 1E600=x
    1E6C0=v 1E6DF=x 1E6E0=v 1E6F6=x 1E6FE=v 1E700=x 1E7E0=v 1E7E7=x 1E7E8=v 1E7EC=x 1E7ED=v
    1E7EF=x 1E7F0=v 1E7FF=x 1E800=v 1E8C5=x 1E8C7=v 1E8D7=x 1E922=v 1E94C=x 1E950=v 1E95A=x
    1E95E=v 1E960=x 1EC71=v 1ECB5=x 1ED01=v 1ED3E=x 1EEF0=v 1EEF2=x 1F000=v 1F02C=x 1F030=v
    1F094=x 1F0A0=v 1F0AF=x 1F0B1=v 1F0C0=x 1F0C1=v 1F0D0=x 1F0D1=v 1F0F6=x 1F10B=v 1F1AE=x
    1F1E6=v 1F203=x 1F260=v 1F266=x 1F300=v 1F6D9=x 1F6DC=v 1F6ED=x 1F6F0=v 1F6FD=x 1F700=v
    1F7DA=x 1F7E0=v 1F7EC=x 1F7F0=v 1F7F1=x 1F800=v 1F80C=x 1F810=v 1F848=x 1F850=v 1F85A=x
    1F860=v 1F888=x 1F890=v 1F8AE=x 1F8B0=v 1F8BC=x 1F8C0=v 1F8C2=x 1F8D0=v 1F8D9=x 1F900=v
    1FA58=x 1FA60=v 1FA6E=x 1FA70=v 1FA7D=x 1FA80=v 1FA8B=x 1FA8E=v 1FAC7=x 1FAC8=v 1FAC9=x
    1FACD=v 1FADD=x 1FADF=v 1FAEB=x 1FAEF=v 1FAF9=x 1FB00=v 1FB93=x 1FB94=v 1FBFB=x 20000=v
    2A6E0=x 2A700=v 2B81E=x 2B820=v 2CEAE=x 2CEB0=v 2EBE1=x 2EBF0=v 2EE5E=x 30000=v 3134B=x
    31350=v 3347A=x 3D000=v 3FC40=x E0100=i E01F0=x"

end TokenAcquisition.Url.DomainName
