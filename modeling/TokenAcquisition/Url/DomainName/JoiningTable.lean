/-!
Letters of connected writing that join the next letter (`l`), the previous one (`r`) or both
(`d`), characters that are transparent to joining (`t`) and all others (`u`).  The value of an entry
holds up to the next one; characters that no domain name has are left out.
-/

namespace TokenAcquisition.Url.DomainName

def joiningTable : String :=
  "
    0=u 300=t 371=u 483=t 48B=u 591=t 5BE=u 5BF=t 5C0=u 5C1=t 5C3=u 5C4=t 5C6=u 5C7=t 5D0=u
    610=t 61B=u 620=d 621=u 622=r 626=d 627=r 628=d 629=r 62A=d 62F=r 633=d 640=u 641=d 648=r
    649=d 64B=t 660=u 66E=d 670=t 671=r 674=u 679=d 688=r 69A=d 6C0=r 6C1=d 6C3=r 6CC=d 6CD=r
    6CE=d 6CF=r 6D0=d 6D2=r 6D4=u 6D5=r 6D6=t 6DE=u 6DF=t 6E5=u 6E7=t 6E9=u 6EA=t 6EE=r 6F0=u
    6FA=d 6FD=u 6FF=d 700=u 710=r 711=t 712=d 715=r 71A=d 71E=r 71F=d 728=r 729=d 72A=r 72B=d
    72C=r 72D=d 72F=r 730=t 74D=r 74E=d 759=r 75C=d 76B=r 76D=d 771=r 772=d 773=r 775=d 778=r
    77A=d 780=u 7A6=t 7B1=u 7CA=d 7EB=t 7F4=u 7FD=t 7FE=u 816=t 81A=u 81B=t 824=u 825=t 828=u
    829=t 830=u 840=r 841=d 846=r 848=d 849=r 84A=d 854=r 855=d 856=r 859=t 85E=u 860=d 861=u
    862=d 866=u 867=r 868=d 869=r 883=u 886=d 887=u 889=d 88E=r 88F=d 897=t 8A0=d 8AA=r 8AD=u
    8AE=r 8AF=d 8B1=r 8B3=d 8B9=r 8BA=d 8C9=u 8CA=t 903=u 93A=t 93B=u 93C=t 93D=u 941=t 949=u
    94D=t 94E=u 951=t 960=u 962=t 964=u 981=t 982=u 9BC=t 9BD=u 9C1=t 9C7=u 9CD=t 9CE=u 9E2=t
    9E6=u 9FE=t A03=u A3C=t A3E=u A41=t A5C=u A70=t A72=u A75=t A76=u A81=t A83=u ABC=t ABD=u
    AC1=t AC9=u ACD=t AD0=u AE2=t AE6=u AFA=t B02=u B3C=t B3D=u B3F=t B40=u B41=t B47=u B4D=t
    B57=u B62=t B66=u B82=t B83=u BC0=t BC1=u BCD=t BD0=u C00=t C01=u C04=t C05=u C3C=t C3D=u
    C3E=t C41=u C46=t C58=u C62=t C66=u C81=t C82=u CBC=t CBD=u CBF=t CC0=u CC6=t CC7=u CCC=t
    CD5=u CE2=t CE6=u D00=t D02=u D3B=t D3D=u D41=t D46=u D4D=t D4E=u D62=t D66=u D81=t D82=u
    DCA=t DCF=u DD2=t DD8=u E31=t E32=u E34=t E3F=u E47=t E4F=u EB1=t EB2=u EB4=t EBD=u EC8=t
    ED0=u F18=t F1A=u F35=t F36=u F37=t F38=u F39=t F3A=u F71=t F7F=u F80=t F85=u F86=t F88=u
    F8D=t FBE=u FC6=t FC7=u 102D=t 1031=u 1032=t 1038=u 1039=t 103B=u 103D=t 103F=u 1058=t
    105A=u 105E=t 1061=u 1071=t 1075=u 1082=t 1083=u 1085=t 1087=u 108D=t 108E=u 109D=t 109E=u
    135D=t 1360=u 1712=t 1715=u 1732=t 1734=u 1752=t 1760=u 1772=t 1780=u 17B7=t 17BE=u 17C6=t
    17C7=u 17C9=t 17D4=u 17DD=t 17E0=u 1807=d 1808=u 1820=d 1880=u 1885=t 1887=d 18A9=t 18AA=d
    18B0=u 1920=t 1923=u 1927=t 1929=u 1932=t 1933=u 1939=t 1940=u 1A17=t 1A19=u 1A1B=t 1A1E=u
    1A56=t 1A57=u 1A58=t 1A61=u 1A62=t 1A63=u 1A65=t 1A6D=u 1A73=t 1A80=u 1AB0=t 1B04=u 1B34=t
    1B35=u 1B36=t 1B3B=u 1B42=t 1B43=u 1B6B=t 1B74=u 1B80=t 1B82=u 1BA2=t 1BA6=u 1BA8=t 1BAA=u
    1BAB=t 1BAE=u 1BE6=t 1BE7=u 1BE8=t 1BEA=u 1BED=t 1BEE=u 1BEF=t 1BF2=u 1C2C=t 1C34=u 1C36=t
    1C3B=u 1CD0=t 1CD3=u 1CD4=t 1CE1=u 1CE2=t 1CE9=u 1CED=t 1CEE=u 1CF4=t 1CF5=u 1CF8=t 1CFA=u
    1DC0=t 1E01=u 20D0=t 2104=u 2CEF=t 2CF3=u 2D7F=t 2D80=u 2DE0=t 2E00=u 302A=t 302E=u 3099=t
    309D=u A66F=t A673=u A674=t A67E=u A69E=t A6A0=u A6F0=t A6F2=u A802=t A803=u A806=t A807=u
    A80B=t A80C=u A825=t A827=u A82C=t A830=u A840=d A872=l A873=u A8C4=t A8CE=u A8E0=t A8F2=u
    A8FF=t A900=u A926=t A92E=u A947=t A952=u A980=t A983=u A9B3=t A9B4=u A9B6=t A9BA=u A9BC=t
    A9BE=u A9E5=t A9E6=u AA29=t AA2F=u AA31=t AA33=u AA35=t AA40=u AA43=t AA44=u AA4C=t AA4D=u
    AA7C=t AA7D=u AAB0=t AAB1=u AAB2=t AAB5=u AAB7=t AAB9=u AABE=t AAC0=u AAC1=t AAC2=u AAEC=t
    AAEE=u AAF6=t AB01=u ABE5=t ABE6=u ABE8=t ABE9=u ABED=t ABF0=u FB1E=t FBB2=u FE20=t FE45=u
    101FD=t 10280=u 102E0=t 102E1=u 10376=t 10380=u 10A01=t 10A10=u 10A38=t 10A40=u 10AC0=d
    10AC5=r 10AC6=u 10AC7=r 10AC8=u 10AC9=r 10ACB=u 10ACD=l 10ACE=r 10AD3=d 10AD7=l 10AD8=d
    10ADD=r 10ADE=d 10AE1=r 10AE2=u 10AE4=r 10AE5=t 10AEB=d 10AEF=r 10AF0=u 10B80=d 10B81=r
    10B82=d 10B83=r 10B86=d 10B89=r 10B8A=d 10B8C=r 10B8D=d 10B8E=r 10B90=d 10B91=r 10B99=u
    10BA9=r 10BAD=d 10BAF=u 10D00=l 10D01=d 10D22=r 10D23=d 10D24=t 10D30=u 10D69=t 10D6E=u
    10EAB=t 10EAD=u 10EC2=r 10EC3=d 10EC5=u 10EC6=d 10ED0=u 10EFA=t 10F00=u 10F30=d 10F33=r
    10F34=d 10F45=u 10F46=t 10F51=d 10F54=r 10F55=u 10F70=d 10F74=r 10F76=d 10F82=t 10F86=u
    10FB0=d 10FB1=u 10FB2=d 10FB4=r 10FB7=u 10FB8=d 10FB9=r 10FBB=d 10FBD=r 10FBE=d 10FC0=u
    10FC1=d 10FC2=r 10FC4=d 10FC5=u 10FC9=r 10FCA=d 10FCB=l 10FE0=u 11001=t 11002=u 11038=t
    11047=u 11070=t 11071=u 11073=t 11075=u 1107F=t 11082=u 110B3=t 110B7=u 110B9=t 110BB=u
    110C2=t 110D0=u 11100=t 11103=u 11127=t 1112C=u 1112D=t 11136=u 11173=t 11174=u 11180=t
    11182=u 111B6=t 111BF=u 111C9=t 111CD=u 111CF=t 111D0=u 1122F=t 11232=u 11234=t 11235=u
    11236=t 11238=u 1123E=t 1123F=u 11241=t 11280=u 112DF=t 112E0=u 112E3=t 112F0=u 11300=t
    11302=u 1133B=t 1133D=u 11340=t 11341=u 11366=t 11380=u 113BB=t 113C2=u 113CE=t 113CF=u
    113D0=t 113D1=u 113D2=t 113D3=u 113E1=t 11400=u 11438=t 11440=u 11442=t 11445=u 11446=t
    11447=u 1145E=t 1145F=u 114B3=t 114B9=u 114BA=t 114BB=u 114BF=t 114C1=u 114C2=t 114C4=u
    115B2=t 115B8=u 115BC=t 115BE=u 115BF=t 115C1=u 115DC=t 11600=u 11633=t 1163B=u 1163D=t
    1163E=u 1163F=t 11641=u 116AB=t 116AC=u 116AD=t 116AE=u 116B0=t 116B6=u 116B7=t 116B8=u
    1171D=t 1171E=u 1171F=t 11720=u 11722=t 11726=u 11727=t 11730=u 1182F=t 11838=u 11839=t
    1183B=u 1193B=t 1193D=u 1193E=t 1193F=u 11943=t 11944=u 119D4=t 119DC=u 119E0=t 119E1=u
    11A01=t 11A0B=u 11A33=t 11A39=u 11A3B=t 11A3F=u 11A47=t 11A50=u 11A51=t 11A57=u 11A59=t
    11A5C=u 11A8A=t 11A97=u 11A98=t 11A9A=u 11B60=t 11B61=u 11B62=t 11B65=u 11B66=t 11B67=u
    11C30=t 11C3E=u 11C3F=t 11C40=u 11C92=t 11CA9=u 11CAA=t 11CB1=u 11CB2=t 11CB4=u 11CB5=t
    11D00=u 11D31=t 11D46=u 11D47=t 11D50=u 11D90=t 11D93=u 11D95=t 11D96=u 11D97=t 11D98=u
    11EF3=t 11EF5=u 11F00=t 11F02=u 11F36=t 11F3E=u 11F40=t 11F41=u 11F42=t 11F43=u 11F5A=t
    11FB0=u 13440=t 13441=u 13447=t 13460=u 1611E=t 1612A=u 1612D=t 16130=u 16AF0=t 16AF5=u
    16B30=t 16B37=u 16F4F=t 16F50=u 16F8F=t 16F93=u 16FE4=t 16FF0=u 1BC9D=t 1BC9F=u 1CF00=t
    1CF50=u 1D167=t 1D16A=u 1D17B=t 1D183=u 1D185=t 1D18C=u 1D1AA=t 1D1AE=u 1D242=t 1D245=u
    1DA00=t 1DA37=u 1DA3B=t 1DA6D=u 1DA75=t 1DA76=u 1DA84=t 1DA85=u 1DA9B=t 1DF00=u 1E000=t
    1E100=u 1E130=t 1E137=u 1E2AE=t 1E2C0=u 1E2EC=t 1E2F0=u 1E4EC=t 1E4F0=u 1E5EE=t 1E5F0=u
    1E6E3=t 1E6E4=u 1E6E6=t 1E6E7=u 1E6EE=t 1E6F0=u 1E6F5=t 1E6FE=u 1E8D0=t 1E922=d 1E944=t
    1E950=u"

end TokenAcquisition.Url.DomainName
